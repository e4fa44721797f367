import Stencil.Job
import Stencil.Proofs.Files.Delivery
import Stencil.Proofs.Relocation.Eval

/-!
What a job writes does not depend on where the values of its context are. A job reads its source,
makes a text of it, and delivers that text; only making it runs code, and that does nothing else.
-/

set_option autoImplicit false

namespace Stencil

namespace Work

variable {move : Nat ↪ Nat} {α β γ δ : Type} {carry : α → β} {after : γ → δ}

/-- Results that are the same but for places, of work that leaves all files as they are. -/
inductive Same (move : Nat ↪ Nat) (carry : α → β) (tree other : FileTree) :
    EStateM.Result Fault Workspace α → EStateM.Result Fault Workspace β → Prop where
  | ok {value : α} {first second : Workspace} (copies : first.store.Copies move second.store)
      (here : first.tree = tree) (there : second.tree = other) :
      Same move carry tree other (.ok value first) (.ok (carry value) second)
  | error {fault : Fault} {first second : Workspace}
      (copies : first.store.Copies move second.store) (here : first.tree = tree)
      (there : second.tree = other) :
      Same move carry tree other (.error fault first) (.error fault second)

/-- Work that succeeds on the copy succeeds on what is copied. -/
theorem Same.of_ok {tree other : FileTree} {result : EStateM.Result Fault Workspace α}
    {found : β} {second : Workspace} (met : Same move carry tree other result (.ok found second)) :
    ∃ value first, result = .ok value first ∧ carry value = found ∧
      first.store.Copies move second.store ∧ first.tree = tree ∧ second.tree = other := by
  generalize same : EStateM.Result.ok found second = outcome at met
  cases met with
  | ok copies here there =>
    cases same
    exact ⟨_, _, rfl, rfl, copies, here, there⟩
  | error => cases same

/-- Work that succeeds on what is copied succeeds on the copy. -/
theorem Same.ok_of {tree other : FileTree} {result : EStateM.Result Fault Workspace β}
    {value : α} {first : Workspace} (met : Same move carry tree other (.ok value first) result) :
    ∃ second, result = .ok (carry value) second ∧ first.store.Copies move second.store ∧
      first.tree = tree ∧ second.tree = other := by
  cases met with
  | ok copies here there => exact ⟨_, rfl, copies, here, there⟩

/-- Work on values that does elsewhere what other work does. -/
def Mirrors (move : Nat ↪ Nat) (carry : α → β) (work : Work α) (twin : Work β) : Prop :=
  ∀ first second : Workspace, first.store.Copies move second.store →
    Same move carry first.tree second.tree (work first) (twin second)

theorem mirrors_pure {value : α} {other : β} (same : carry value = other) :
    Mirrors move carry (pure value) (pure other) := by
  cases same
  exact fun _ _ copies => .ok copies rfl rfl

theorem mirrors_throw (fault : Fault) : Mirrors move carry (throw fault) (throw fault) :=
  fun _ _ copies => .error copies rfl rfl

theorem Mirrors.bind {work : Work α} {twin : Work β} {next : α → Work γ} {follow : β → Work δ}
    (here : Mirrors move carry work twin)
    (later : ∀ value, Mirrors move after (next value) (follow (carry value))) :
    Mirrors move after (work >>= next) (twin >>= follow) := by
  intro first second copies
  have met := here first second copies
  rw [Outcome.bind_apply, Outcome.bind_apply]
  generalize work first = result at met ⊢
  generalize twin second = outcome at met ⊢
  cases met with
  | ok copies here there =>
    rw [← here, ← there]
    exact later _ _ _ copies
  | error copies here there => exact .error copies here there

/-- Work that goes on unless it is refused. -/
theorem Mirrors.refusing {condition : Prop} [Decidable condition] {fault : Fault}
    {next : Unit → Work γ} {follow : Unit → Work δ}
    (later : ¬condition → Mirrors move after (next ()) (follow ())) :
    Mirrors move after (if condition then throw fault >>= next else next ())
      (if condition then throw fault >>= follow else follow ()) := by
  split
  next => exact fun _ _ copies => .error copies rfl rfl
  next fails => exact later fails

theorem mirrors_mapM {items : List α} {one : α → Work γ} {other : β → Work δ}
    (each : ∀ item, Mirrors move after (one item) (other (carry item))) :
    Mirrors move (List.map after) (items.mapM one) ((items.map carry).mapM other) := by
  induction items with
  | nil => exact mirrors_pure rfl
  | cons item rest ih =>
    rw [List.map_cons, List.mapM_cons, List.mapM_cons]
    exact (each item).bind fun first => ih.bind fun others => mirrors_pure rfl

theorem mirrors_each {items : List α} {one : α → Work γ} {other : α → Work δ}
    (each : ∀ item, Mirrors move after (one item) (other item)) :
    Mirrors move (List.map after) (items.mapM one) (items.mapM other) := by
  have found := @mirrors_mapM move α α γ δ id after items one other each
  rwa [List.map_id] at found

theorem mirrors_script {run : Script.Run α} {twin : Script.Run β}
    (mirrors : Script.Run.Mirrors move carry run twin) :
    Mirrors move carry (script run) (script twin) := by
  intro first second copies
  have met := mirrors first.store second.store copies
  rw [script, script]
  generalize run first.store = result at met ⊢
  generalize twin second.store = outcome at met ⊢
  cases met with
  | ok copies => exact .ok copies rfl rfl
  | error copies => exact .error copies rfl rfl

theorem mirrors_lift (outcome : Except Fault α) : Mirrors move id (lift outcome) (lift outcome) := by
  cases outcome with
  | ok value => exact mirrors_pure rfl
  | error fault => exact mirrors_throw fault

theorem detail_keeps (message : Text) (workspace : Workspace) :
    ∃ later, detail message workspace = .ok () later ∧ later.store = workspace.store ∧
      later.tree = workspace.tree := by
  rw [detail]
  simp only [Outcome.bind_apply, get, getThe, MonadStateOf.get, EStateM.get]
  split
  next => exact ⟨_, rfl, rfl, rfl⟩
  next => exact ⟨_, rfl, rfl, rfl⟩

theorem mirrors_detail (message : Text) : Mirrors move id (detail message) (detail message) := by
  intro first second copies
  obtain ⟨one, done, stored, kept⟩ := detail_keeps message first
  obtain ⟨other, ended, held, stayed⟩ := detail_keeps message second
  rw [done, ended]
  exact .ok (by rwa [stored, held]) kept stayed

end Work

/-! ### Jobs and templates elsewhere -/

variable {move : Nat ↪ Nat}

def Context.moved (move : Nat → Nat) (context : Context) : Context :=
  { context with page := context.page.moved move }

def Template.moved (move : Nat → Nat) (template : Template) : Template :=
  { template with entry := template.entry.moved move }

def Job.moved (move : Nat → Nat) (job : Job) : Job :=
  { job with attributes := job.attributes.mapValues (Script.Value.moved move) }

namespace Template

open Work

/-- What compiling does once the source is read. -/
def ofText (text name : Text) (type : ContextType) : Work Template := do
  Work.detail ("Compiling template ".toList ++ name ++ " for ".toList ++ type.name)
  let tokens ← Work.lift ((Lexer.lex text).mapError Fault.source)
  Work.detail ("Lexed ".toList ++ Text.decimal tokens.length ++ " tokens".toList)
  let program ← Work.lift ((Program.ofTokens tokens type.name).mapError Fault.source)
  Work.detail ("Generated template code:\n".toList ++ program.code)
  ofCode name type program.code

theorem compile_eq (source : Source) (type : ContextType) :
    compile source type [] = (do
      let (text, name) ← source.read
      ofText text name type) := rfl

theorem mirrors_ofCode (name : Text) (type : ContextType) (code : Text) :
    Mirrors move (Template.moved move) (ofCode name type code) (ofCode name type code) := by
  rw [ofCode]
  split
  next => exact mirrors_throw _
  next =>
    refine (mirrors_lift _).bind fun module => ?_
    refine (mirrors_script (Script.mirrors_runModule module)).bind fun globals => ?_
    refine (mirrors_script (Script.Run.mirrors_bindings globals)).bind fun bound => ?_
    rw [Script.findName?_moved]
    cases Script.findName? entryName bound with
    | some entry => exact mirrors_pure rfl
    | none => exact mirrors_throw _

theorem mirrors_ofText (text name : Text) (type : ContextType) :
    Mirrors move (Template.moved move) (ofText text name type) (ofText text name type) := by
  refine (mirrors_detail _).bind fun _ => (mirrors_lift _).bind fun tokens => ?_
  refine (mirrors_detail _).bind fun _ => (mirrors_lift _).bind fun program => ?_
  exact (mirrors_detail _).bind fun _ => mirrors_ofCode name type program.code

theorem mirrors_render (template : Template) (context : Context) :
    Mirrors move (Script.Value.moved move) (template.render context)
      ((template.moved move).render (context.moved move)) := by
  rw [render, render]
  simp only [Template.moved, Context.moved]
  refine .refusing fun _ => mirrors_script ?_
  refine (Script.Run.mirrors_allocate (.dict [(.text "context".toList, context.page)])).bind
    fun bindings => ?_
  exact Script.mirrors_callFunction template.entry [.dict bindings]

end Template

namespace Job

open Work

theorem mirrors_makeValues (entries : Datum.Entries) :
    Mirrors move (Datum.Keyed.mapValues (Script.Value.moved move)) (makeValues entries)
      (makeValues entries) :=
  mirrors_each fun entry => (mirrors_script (Script.mirrors_ofDatum entry.2)).bind fun _ =>
    mirrors_pure rfl

/-- The jobs of a configuration are made alike, wherever their values get. -/
theorem mirrors_ofConfig (config : Config) :
    Mirrors move (List.map (Job.moved move)) (ofConfig config) (ofConfig config) := by
  refine (mirrors_makeValues config.shared).bind fun shared => ?_
  exact mirrors_each fun entry => (mirrors_makeValues entry.own).bind fun own => mirrors_pure (by
    rw [Job.moved, Datum.Keyed.mapValues_update])

/-- An attribute under its name, which must be a text. -/
def attributeOf (entry : Datum × Script.Value) : Work (Text × Script.Value) :=
  match entry.1 with
  | .text name => pure (name, entry.2)
  | _ => throw (.value .wrongType)

theorem mirrors_attributeOf (entry : Datum × Script.Value) :
    Mirrors move (fun found : Text × Script.Value => (found.1, found.2.moved move))
      (attributeOf entry) (attributeOf (entry.1, entry.2.moved move)) := by
  obtain ⟨key, value⟩ := entry
  cases key with
  | text name => exact mirrors_pure rfl
  | _ => exact mirrors_throw _

theorem mirrors_context (job : Job) :
    Mirrors move (Context.moved move) job.context (job.moved move).context := by
  refine (mirrors_mapM mirrors_attributeOf).bind fun attributes => ?_
  refine (mirrors_script (Script.Run.mirrors_allocate (.page ⟨_, attributes⟩))).bind fun place => ?_
  exact mirrors_pure rfl

/-- What a job makes of the text of its source. -/
def html (job : Job) (text : Text) : Work Script.Value := do
  let context ← job.context
  let template ← Template.ofText text job.source.display context.type
  template.render context

theorem mirrors_html (job : Job) (text : Text) :
    Mirrors move (Script.Value.moved move) (job.html text) ((job.moved move).html text) := by
  refine (mirrors_context job).bind fun context => ?_
  refine (Template.mirrors_ofText text _ context.type).bind fun template => ?_
  exact Template.mirrors_render template context

end Job

end Stencil
