import Stencil.Proofs.Module.Running
import Stencil.Template

/-!
From a program to the text that its template renders.
-/

set_option autoImplicit false

namespace Stencil

open Script Script.Module

namespace Work

variable {α : Type} {workspace : Workspace}

theorem script_apply {run : Script.Run α} {value : α} {store : Script.Store}
    (ran : run workspace.store = .ok value store) :
    script run workspace = .ok value { workspace with store := store } := by
  rw [script, ran]

/-- Reporting a detail changes nothing that code can see. -/
theorem detail_apply (message : Text) (workspace : Workspace) :
    ∃ later, detail message workspace = .ok () later ∧ later.store = workspace.store := by
  by_cases wanted : workspace.verbose = true
  next =>
    refine ⟨{ workspace with journal := workspace.journal ++ [⟨.debug, message, none⟩] }, ?_, rfl⟩
    simp only [detail, Outcome.bind_apply, get, getThe, MonadStateOf.get, EStateM.get,
      if_pos wanted]
    rfl
  next =>
    refine ⟨workspace, ?_, rfl⟩
    simp only [detail, Outcome.bind_apply, get, getThe, MonadStateOf.get, EStateM.get,
      if_neg wanted]
    rfl

end Work

theorem Program.contextType_ofTokens {tokens : List Token} {contextType : Text}
    {program : Program} (compiled : Program.ofTokens tokens contextType = .ok program) :
    program.contextType = contextType := by
  obtain ⟨opened, _, built⟩ := Outcome.bind_eq_ok.mp compiled
  obtain ⟨last, _, built⟩ := Outcome.bind_eq_ok.mp built
  cases built
  rfl

/-- The text that a value is. -/
def Script.Value.asText? : Script.Value → Option Text
  | .text letters => some letters
  | _ => Option.none

/-- A run of which the text is known. -/
theorem Work.ran_of_asText? {work : Work Script.Value} {workspace : Workspace} {text : Text}
    (found : (Outcome.value? work workspace).bind Script.Value.asText? = some text) :
    ∃ later, work workspace = .ok (.text text) later := by
  obtain ⟨value, ran, shown⟩ := Option.bind_eq_some_iff.mp found
  obtain ⟨later, ran⟩ := Outcome.ran_of_value? ran
  cases value with
  | text same =>
    cases shown
    exact ⟨later, ran⟩
  | _ => cases shown

namespace Template

variable {contextType : ContextType} {body : List Stmt} {workspace : Workspace}

theorem ofCode_apply {name code : Text} (noNul : name.contains '\x00' = false)
    (loads : loadModule code = .ok (module contextType.name body)) (workspace : Workspace) :
    ∃ template later, ofCode name contextType code workspace = .ok template later ∧
      template.contextType = contextType ∧ workspace.store.Keeps later.store ∧
      ∃ globals, template.entry = .function (globals + 2) ∧
        Loaded globals contextType.name body later.store := by
  obtain ⟨store, ran, loaded, kept⟩ := runModule_module contextType.name body workspace.store
  have found : Work.lift ((loadModule code).mapError Fault.code) =
      pure (module contextType.name body) := by
    rw [loads]
    rfl
  have bound := Run.bindings_apply loaded.ready.names
  refine ⟨⟨name, contextType, code, .function (workspace.store.cells.size + 2)⟩,
    { workspace with store := store }, ?_, rfl, kept, workspace.store.cells.size, rfl, loaded⟩
  simp only [ofCode, noNul, Bool.false_eq_true, if_false, found, pure_bind]
  rw [Outcome.bind_apply, Work.script_apply ran]
  simp only [Outcome.bind_apply]
  rw [Work.script_apply bound]
  rfl

/-- A source that has a program is compiled by loading the program's code. -/
theorem compile_apply {source : Text} {tokens : List Token} {program : Program}
    (lexed : Lexer.lex source = .ok tokens)
    (compiled : Program.ofTokens tokens contextType.name = .ok program) (workspace : Workspace) :
    ∃ later, compile (.text source) contextType [] workspace =
        ofCode "<string>".toList contextType program.code later ∧
      later.store = workspace.store := by
  obtain ⟨first, one, same⟩ := Work.detail_apply
    ("Compiling template ".toList ++ "<string>".toList ++ " for ".toList ++ contextType.name)
    workspace
  obtain ⟨second, two, also⟩ := Work.detail_apply
    ("Lexed ".toList ++ Text.decimal tokens.length ++ " tokens".toList) first
  obtain ⟨third, three, likewise⟩ := Work.detail_apply
    ("Generated template code:\n".toList ++ program.code) second
  have words : Work.lift ((Lexer.lex source).mapError Fault.source) = pure tokens := by
    rw [lexed]
    rfl
  have built : Work.lift ((Program.ofTokens tokens contextType.name).mapError Fault.source) =
      pure program := by
    rw [compiled]
    rfl
  refine ⟨third, ?_, likewise.trans (also.trans same)⟩
  rw [compile, Source.read, pure_bind]
  simp only [List.isEmpty_nil, if_true]
  rw [Outcome.bind_apply, one, words, pure_bind]
  simp only
  rw [Outcome.bind_apply, two, built, pure_bind]
  simp only
  rw [Outcome.bind_apply, three]

theorem render_apply {template : Template} {globals blocks : Nat} {context : Context}
    {names : List Text} {entries : List Points} {before : Store}
    (entry : template.entry = .function (globals + 2))
    (type : template.contextType = context.type)
    (loaded : Loaded globals context.type.name body workspace.store)
    (binds : BindsAll blocks body names) (unescaped : escapeName ∉ names)
    (kept : before.Keeps workspace.store)
    (renders : Renders before context.page names body entries) :
    ∃ later, template.render context workspace = .ok (.ofPoints (joined entries)) later := by
  have pushed := Store.keeps_push workspace.store (.dict [(.text "context".toList, context.page)])
  have given := Store.holds_push workspace.store (.dict [(.text "context".toList, context.page)])
  obtain ⟨store, called⟩ := callFunction_render (loaded.keeps pushed) binds given unescaped
    (kept.trans pushed) renders
  refine ⟨{ workspace with store := store }, ?_⟩
  simp only [Template.render, type, ContextType.accepts_self, Bool.not_true, Bool.false_eq_true,
    if_false, entry]
  refine Work.script_apply ?_
  simp only [Outcome.bind_apply, Run.allocate_apply]
  exact called

end Template

/-- Without details, a source is rendered by loading the code of its program. -/
theorem renderSource_quiet {source : Text} {context : Context} {workspace : Workspace}
    (quiet : workspace.verbose = false) :
    renderSource (.text source) context workspace = (do
      let program ← Work.lift ((Program.ofSource source context.type.name).mapError Fault.source)
      let template ← Template.ofCode "<string>".toList context.type program.code
      template.render context : Work Script.Value) workspace := by
  have silent (message : Text) : Work.detail message workspace = .ok () workspace := by
    simp only [Work.detail, Outcome.bind_apply, get, getThe, MonadStateOf.get, EStateM.get, quiet]
    rfl
  have lifted {α : Type} (value : α) :
      Work.lift ((Except.ok value).mapError Fault.source) workspace = .ok value workspace := rfl
  simp only [renderSource, Template.compile, Source.read, pure_bind, List.isEmpty_nil, if_true,
    Outcome.bind_apply, silent, Program.ofSource]
  cases Lexer.lex source with
  | error fault => rfl
  | ok tokens =>
    simp only [Outcome.ok_bind, lifted, silent]
    cases Program.ofTokens tokens context.type.name with
    | error fault => rfl
    | ok program => simp only [lifted, silent]

/-- A template renders what the statements of its program put out. -/
theorem renderSource_apply {source : Text} {tokens : List Token} {context : Context}
    {program : Program} {height blocks : Nat} {spoken : List Script.Token} {body : List Stmt}
    {names : List Text} {entries : List Points}
    (lexed : Lexer.lex source = .ok tokens)
    (compiled : Program.ofTokens tokens context.type.name = .ok program)
    (reads : Reads (program.code.length + 1) height program.body spoken body)
    (deep : 1 + height ≤ Lexer.maximalIndents) (binds : BindsAll blocks body names)
    (room : blocks ≤ Check.maximalBlocks) (unescaped : escapeName ∉ names) (workspace : Workspace)
    (renders : Renders workspace.store context.page names body entries) :
    ∃ later, renderSource (.text source) context workspace =
      .ok (.ofPoints (joined entries)) later := by
  have type := Program.contextType_ofTokens compiled
  have loads := loadModule_code reads deep binds room
  rw [type] at loads
  have noNul : ("<string>".toList).contains '\x00' = false := by decide
  obtain ⟨middle, started, same⟩ := Template.compile_apply lexed compiled workspace
  obtain ⟨template, loaded, made, type, kept, globals, entry, ready⟩ :=
    Template.ofCode_apply noNul loads middle
  rw [same] at kept
  obtain ⟨later, rendered⟩ :=
    Template.render_apply entry type ready binds unescaped kept renders
  refine ⟨later, ?_⟩
  rw [renderSource, Outcome.bind_apply, started, made]
  exact rendered

end Stencil
