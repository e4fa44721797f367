import Stencil.Proofs.Block.Below
import Stencil.Proofs.Block.Running

/-!
Lines below a line of code are rendered as often as the block that they make is run. The methods of
a page that take a block call it a fixed number of times, and what they return is shown as a fixed
text.
-/

set_option autoImplicit false

/-! ### Methods that take a block -/

namespace Stencil.Script.Block

open Script.Module

/-- How often a method calls the block that it gets, and what it returns is shown as. The other
method takes no block. -/
def outcome? : PageMethod → Option (Nat × Text)
  | .wrap => some (1, "wrapped".toList)
  | .twice => some (2, ['2'])
  | .skip => some (0, "skipped".toList)
  | .around => none

variable {method : PageMethod} {count : Nat} {shown : Text} {store : Store} {block : Nat}

theorem display_text (text : Text) (store : Store) :
    (Value.text text).displayPoints store = .ok (Points.ofText text) store := rfl

theorem display_two (store : Store) :
    (Value.integer 2).displayPoints store = .ok (Points.ofText ['2']) store := by
  have short : isTooLong 2 = false := by decide +kernel
  have current : (Value.integer 2).current store = .ok (.integer 2) store := by
    rw [Value.current, maximalNesting, Value.snapshot, short]
    rfl
  have display : (Value.integer 2).display store = .ok ['2'] store := by
    simp only [Value.display, Outcome.bind_apply, current]
    rfl
  simp only [Value.displayPoints, Value.points?, Outcome.bind_apply, display]
  rfl

/-- A method goes as many steps further as it calls its block. -/
theorem call_method (known : outcome? method = some (count, shown)) {reached : Nat → Store → Prop}
    (steps : ∀ done store, reached done store →
      ∃ later, call 999999990 1 (.function block) [] [] store = .ok .none later ∧
        reached (done + 1) later)
    (begun : reached 0 store) :
    ∃ value later, call callDepth 1 (.pageMethod method) [.function block] [] store =
        .ok value later ∧ reached count later ∧
      value.displayPoints later = .ok (Points.ofText shown) later := by
  have depth : callDepth = 999999990 + 1 := rfl
  rw [depth]
  cases method with
  | wrap =>
    cases known
    obtain ⟨later, ran, further⟩ := steps 0 store begun
    refine ⟨.text "wrapped".toList, later, ?_, further, display_text _ later⟩
    rw [call]
    simp only [Outcome.bind_apply, ran]
    rfl
  | twice =>
    cases known
    obtain ⟨middle, first, one⟩ := steps 0 store begun
    obtain ⟨later, second, two⟩ := steps 1 middle one
    refine ⟨.integer 2, later, ?_, two, display_two later⟩
    rw [call]
    simp only [Outcome.bind_apply, first, second]
    rfl
  | skip =>
    cases known
    exact ⟨.text "skipped".toList, store, rfl, begun, display_text _ store⟩
  | around => cases known

/-- Code whose value is a method of the page calls the block as often as the method does. -/
theorem callsBlock_method {before : Store} {page : Value} {names : List Text} {callee : Expr}
    (known : outcome? method = some (count, shown))
    (evaluated : ∀ globals frame output block store,
      Begins before page names globals frame output block store →
      ∃ middle, eval callDepth ⟨[frame], globals, 1⟩ callee store = .ok (.pageMethod method) middle ∧
        Undisturbed globals frame output block store middle) :
    CallsBlock before page names callee count (Points.ofText shown) := by
  intro globals frame output block store begins reached begun kept steps
  obtain ⟨middle, function, undisturbed⟩ := evaluated globals frame output block store begins
  have reachedMiddle := kept 0 store middle begun undisturbed
  obtain ⟨value, later, called, finished, display⟩ := call_method known (fun done store here => by
    obtain ⟨later, ran, further, _⟩ := steps done store 999999990 1 here (by decide) (by decide)
    exact ⟨later, ran, further⟩) reachedMiddle
  exact ⟨_, middle, value, later, function, reachedMiddle, called, finished, display⟩

/-! ### Attributes of the page -/

theorem Undisturbed.refl {globals output : Nat} {frame : Frame} (store : Store) :
    Undisturbed globals frame output block store store :=
  ⟨fun _ _ _ held => held, fun bound held => ⟨bound, held, fun _ _ => rfl⟩⟩

/-- Code that reads a method off the page. -/
def methodOf (name : Text) : Expr := .attributeOf (.name selfName) name

theorem sits_methodOf (name : Text) : Sits (methodOf name) [] := (sits_name selfName).attributeOf name

/-- A page at a place whose attributes leave a method to be found under its name. -/
structure Offers (before : Store) (place : Nat) (name : Text) (method : PageMethod) : Prop where
  page : ∃ attributes, before.Holds place (.page ⟨.page, attributes⟩) ∧
    findName? name attributes = none
  known : Builtin.pageMethod? name = some method

variable {before : Store} {place : Nat} {name : Text} {names : List Text}

theorem eval_methodOf {globals output : Nat} {frame : Frame} (offers : Offers before place name method)
    (begins : Begins before (.page place) names globals frame output block store) (fuel : Nat) :
    eval (fuel + 2) ⟨[frame], globals, 1⟩ (methodOf name) store =
      .ok (.pageMethod method) store := by
  obtain ⟨arguments, bound⟩ := begins.bound
  obtain ⟨attributes, held, free⟩ := offers.page
  have inside : selfName ∈ frame.locals := by
    rw [begins.locals, List.mem_eraseDups]
    simp
  have object : eval (fuel + 1) ⟨[frame], globals, 1⟩ (.name selfName) store =
      .ok (.page place) store :=
    Names.value_local bound (by simp [begins.undeclared]) inside rfl
  have found : Run.pageAt place store = .ok ⟨.page, attributes⟩ store := by
    simp only [Run.pageAt, Outcome.bind_apply, Run.cell_apply (begins.kept _ _ held)]
    rfl
  rw [methodOf, eval]
  simp only [Outcome.bind_apply, object, Builtin.member, found, free, offers.known]
  rfl

theorem callsBlock_methodOf (known : outcome? method = some (count, shown))
    (offers : Offers before place name method) (names : List Text) :
    CallsBlock before (.page place) names (methodOf name) count (Points.ofText shown) :=
  callsBlock_method known fun _ _ _ _ store begins =>
    ⟨store, eval_methodOf offers begins 999999989, Undisturbed.refl store⟩

/-- Binding a name that generated code does not have disturbs nothing. -/
theorem undisturbed_put {page : Value} {globals output : Nat} {frame : Frame} {target : Text}
    (begins : Begins before page names globals frame output block store)
    (apart : target ≠ outputName ∧ target ≠ blockName) {bound : List (Text × Value)}
    (held : store.Holds frame.place (.bindings bound)) (value : Value) :
    Undisturbed globals frame output block store
      (store.put frame.place (.bindings (bindName target value bound))) := by
  obtain ⟨arguments, holds⟩ := begins.bound
  obtain ⟨function, defined⟩ := begins.defined
  have unnamed : frame.place ≠ globals := holds.apart begins.ready.names (by simp [moduleNames])
  have others : ∀ place ∈ [globals, globals + 1, output, block], frame.place ≠ place := by
    simp only [List.forall_mem_cons]
    exact ⟨unnamed, holds.apart begins.ready.escape (by simp),
      holds.apart begins.collected (by simp), holds.apart defined (by simp), List.forall_mem_nil _⟩
  constructor
  case kept => exact fun place member cell found => found.put_other (others place member) _
  case named =>
    intro other found
    cases Cell.bindings.inj (Option.some.inj (held.symm.trans found))
    refine ⟨_, Store.holds_put held _, fun name member => findName?_other ?_ value bound⟩
    rintro rfl
    simp only [List.mem_cons, List.not_mem_nil, or_false] at member
    exact member.elim apart.1 apart.2

/-- The same for code that gives the method a name, unless generated code has that name. -/
theorem callsBlock_named {target : Text} (known : outcome? method = some (count, shown))
    (offers : Offers before place name method) (inside : target ∈ names)
    (apart : target ≠ outputName ∧ target ≠ blockName) :
    CallsBlock before (.page place) names (.named target (methodOf name)) count
      (Points.ofText shown) := by
  refine callsBlock_method known fun globals frame output block store begins => ?_
  obtain ⟨arguments, bound⟩ := begins.bound
  have value := eval_methodOf offers begins 999999988
  have local_ : target ∈ frame.locals := by
    rw [begins.locals, List.mem_eraseDups]
    simp [inside]
  have stored : Names.store target (.pageMethod method) ⟨[frame], globals, 1⟩ store = _ :=
    Names.store_local bound (by simp [begins.undeclared]) local_ (.pageMethod method)
  refine ⟨_, ?_, undisturbed_put begins apart bound (.pageMethod method)⟩
  have depth : callDepth = 999999990 + 1 := rfl
  rw [depth, eval]
  simp only [Outcome.bind_apply, value, stored]
  rfl

end Stencil.Script.Block

/-! ### Lines below a line of code -/

namespace Stencil

open Markup Script.Static Script.Module Script.Block

/-! ### Repetitions -/

section Repetitions

variable {α : Type} {separator first : List α} {parts others : List (List α)}

theorem intercalate_cons_congr
    (same : List.intercalate separator parts = List.intercalate separator others)
    (both : parts = [] ↔ others = []) :
    List.intercalate separator (first :: parts) = List.intercalate separator (first :: others) := by
  by_cases last : parts = []
  next => rw [last, both.mp last]
  next =>
    rw [List.intercalate_cons_of_ne_nil last, List.intercalate_cons_of_ne_nil (mt both.mpr last), same]

/-- What is joined already may be joined to others. -/
theorem intercalate_group (filled : parts ≠ []) :
    List.intercalate separator (parts ++ others) =
      List.intercalate separator (List.intercalate separator parts :: others) := by
  induction parts with
  | nil => exact absurd rfl filled
  | cons part parts ih =>
    cases parts with
    | nil => rw [List.intercalate_singleton, List.singleton_append]
    | cons next parts =>
      have inner := ih (List.cons_ne_nil next parts)
      rw [List.cons_append, List.cons_append, List.intercalate_cons_cons, ← List.cons_append, inner,
        List.intercalate_cons_cons]
      cases others with
      | nil => simp only [List.intercalate_singleton]
      | cons other others => simp only [List.intercalate_cons_cons, List.append_assoc]

end Repetitions

/-- Texts that are put out again and again are joined like the text of them all. -/
theorem joined_repeated {texts : List Text} (filled : texts ≠ []) (count : Nat)
    (others : List Points) :
    joined ((List.replicate count texts).flatten.map Points.ofText ++ others) =
      joined (List.replicate count (Points.ofText (Text.join ['\n'] texts)) ++ others) := by
  unfold joined
  induction count with
  | zero => rfl
  | succ count ih =>
    have present : texts.map Points.ofText ≠ [] := mt List.map_eq_nil_iff.mp filled
    rw [List.replicate_succ, List.flatten_cons, List.map_append, List.append_assoc,
      intercalate_group present, intercalate_ofText, List.replicate_succ, List.cons_append]
    exact intercalate_cons_congr ih (by simp [filled])

/-! ### Code of blocks -/

theorem Puts.reads {statements : List Statement} {texts : List Text} (puts : Puts statements texts)
    (readable : ∀ text ∈ texts, '\x00' ∉ text) :
    ∃ entries : List Entry, entries.map Entry.shown = texts ∧ (∀ entry ∈ entries, entry.others.length ≤ 3) ∧
      ∀ reach, ∃ spoken, Script.Reads (reach + 3) 0 statements spoken (entries.map Entry.statement) := by
  obtain ⟨outputs, entries, rfl, same, rfl, short⟩ := puts
  have good : ∀ entry ∈ entries, entry.Readable := fun entry member =>
    Entry.readable_of_shown (readable _ (List.mem_map_of_mem member))
  exact ⟨entries, rfl, short, fun reach => ⟨_, reads_entries same good reach 0⟩⟩

variable {margin body code numeral : Text} {count : Nat}

theorem inside_of_all {text : Text} (all : text.all (fun c => !Text.isBoundary c) = true) :
    ∀ c ∈ text, Text.isBoundary c = false :=
  fun c member => (Bool.not_eq_true' _).mp (List.all_eq_true.mp all c member)

theorem oneLine_loopCode (indents : ∀ c ∈ margin, Text.isIndent c = true)
    (isNumeral : IsNumeral numeral count) : OneLine margin (loopCode numeral) := by
  have around : ∀ c ∈ "for i in range(".toList ++ [')'], Text.isBoundary c = false :=
    inside_of_all (by decide)
  have digit {c : Char} (member : c ∈ numeral) : Text.isBoundary c = false := by
    rw [← Bool.not_eq_true]
    intro boundary
    obtain ⟨other, known, same⟩ := mem_boundaries boundary
    have apart : ∀ other ∈ boundaries, (Char.ofNat other).isAlphanum = false ∧
        Char.ofNat other ≠ '_' := by decide
    exact isNumeral.apart member (apart other known) same
  refine ⟨indents, ?_, ?_, trimRight_concat rfl⟩
  · intro c member
    rcases List.mem_append.mp member with before | last
    · rcases List.mem_append.mp before with first | inside
      · exact around c (List.mem_append_left _ first)
      · exact digit inside
    · exact around c (List.mem_append_right _ last)
  · intro c first
    cases first
    rfl

/-- The code of a program is as long as reading it takes. -/
theorem reach_code (program : Program) {height : Nat} {found : List Script.Stmt}
    (reads : ∀ reach, ∃ spoken, Script.Reads (reach + 3) height program.body spoken found) :
    ∃ spoken, Script.Reads (program.code.length + 1) height program.body spoken found := by
  obtain ⟨_, first⟩ := reads 0
  have large := length_code first
  rw [Script.Lexer.maximalIndents] at large
  have reach : program.code.length + 1 = program.code.length - 2 + 3 := by omega
  exact reach ▸ reads _

/-! ### Templates -/

variable {lines : List Markup.Line} {context : Context}

theorem renderSource_loop (indents : ∀ c ∈ margin, Text.isIndent c = true)
    (below : Below margin.length body lines) (readable : ∀ text ∈ document [] lines, '\x00' ∉ text)
    (filled : document [] lines ≠ []) (isNumeral : IsNumeral numeral count) (workspace : Workspace) :
    ∃ later, renderSource (.text (margin ++ '-' :: ' ' :: loopCode numeral ++ '\n' :: body)) context
      workspace = .ok (.text (Text.join ['\n']
        (List.replicate count (Text.join ['\n'] (document [] lines))))) later := by
  obtain ⟨names, assigned⟩ := assignedNames_loop isNumeral
  rw [← headerOf_loopCode] at assigned
  obtain ⟨tokens, statements, lexed, built, puts⟩ := Program.ofTokens_block
    (oneLine_loopCode indents isNumeral) below assigned context.type.name
  obtain ⟨entries, shown, short, reads⟩ := Puts.reads puts readable
  rw [headerOf_loopCode] at built
  obtain ⟨spoken, reads⟩ := reach_code ⟨context.type.name, [.block (loopHeader numeral) statements]⟩
    fun reach => reads_loop isNumeral (reads reach).choose_spec
  have binds : BindsAll 1 [loop count (under entries)] [['i']] :=
    .cons (binds_loop (binds_under 0 entries)) .nil
  obtain ⟨later, rendered⟩ := renderSource_apply lexed built reads (by decide) binds (by decide)
    (by decide) workspace (renders_loop short workspace.store context.page count)
  refine ⟨later, ?_⟩
  have repeated := joined_repeated filled count []
  rw [List.append_nil, List.append_nil] at repeated
  rw [rendered, shown, repeated, ← List.map_replicate, ofPoints_joined]

theorem renderSource_call {callee : Script.Expr} {names : List Text} {shown : Points}
    (below : Below margin.length body lines) (readable : ∀ text ∈ document [] lines, '\x00' ∉ text)
    (filled : document [] lines ≠ []) (oneLine : OneLine margin code)
    (isCallee : IsCallee code callee names) (free : "str".toList ∉ names)
    (unescaped : escapeName ∉ names) (workspace : Workspace)
    (calls : CallsBlock workspace.store context.page names callee count shown) :
    ∃ later, renderSource (.text (margin ++ '=' :: ' ' :: code ++ '\n' :: body)) context
      workspace = .ok (.ofPoints (joined
        (List.replicate count (Points.ofText (Text.join ['\n'] (document [] lines))) ++
          [Points.ofText (Text.spaces margin.length) ++ shown]))) later := by
  obtain ⟨tokens, statements, lexed, built, puts⟩ :=
    Program.ofTokens_called oneLine below context.type.name
  obtain ⟨entries, same, short, reads⟩ := Puts.reads puts readable
  generalize program : (⟨context.type.name, [.function 0 [] statements,
    .control (Builder.callStatement margin.length code 0)]⟩ : Program) = made at built
  have high : (calledCode code).length + 3 < made.code.length := by
    have line : Statement.line (.control (Builder.callStatement margin.length code 0) 0) ∈
        made.body := program ▸ List.mem_cons_of_mem _ (List.mem_singleton.mpr rfl)
    have unified := unifyBreaks_called isCallee oneLine.inside
    have inside := (infix_of_appending line
      (callStatement_eq unified margin.length [] callee)).length_le
    simp only [Script.sumCode, Script.textOf, unified, List.flatMap_cons, List.flatMap_nil, List.length_append,
      List.length_cons, List.length_nil] at inside
    have sign : " + ".toList.length = 3 := by decide
    have string : "str(".toList.length = 4 := by decide
    omega
  obtain ⟨spoken, reads⟩ : ∃ spoken, Script.Reads (made.code.length + 1) 1 made.body spoken
      [blockFunction (under entries), .expression (Script.appendCall (callExpr margin.length callee))] := by
    have reach : made.code.length + 1 = made.code.length - 2 + 3 := by omega
    have room : (calledCode code).length < made.code.length - 2 := by omega
    have body := reads_call isCallee oneLine.inside room (reads _).choose_spec margin.length
    rw [reach]
    subst program
    exact body
  have binds : BindsAll 0 [blockFunction (under entries),
      .expression (Script.appendCall (callExpr margin.length callee))] (blockName :: names) := by
    have both := BindsAll.cons (binds_block (binds_under 0 entries) (Nat.zero_le _) 0)
      (.cons (sits_call isCallee.sits margin.length).binds .nil)
    rwa [List.append_nil] at both
  have outside : escapeName ∉ blockName :: names :=
    List.not_mem_cons_of_ne_of_not_mem (by decide) unescaped
  obtain ⟨later, rendered⟩ := renderSource_apply lexed built reads (by decide) binds
    (Nat.zero_le _) outside workspace (renders_call short free unescaped calls margin.length)
  refine ⟨later, ?_⟩
  rw [rendered, same, joined_repeated filled]

/-- Lines without code are rendered once for each turn of a loop above them, and once for each call
that the code above them makes of its argument, in front of what it returns. -/
theorem renderSource_blocks {tokens : List Token} {workspace later : Workspace}
    {value : Script.Value} (indents : ∀ c ∈ margin, Text.isIndent c = true)
    (lexed : Lexer.lex body = .ok tokens) (plain : ∀ token ∈ tokens, Plain token)
    (present : rows body ≠ []) (deep : ∀ row ∈ rows body, margin.length < row.depth)
    (rendered : renderSource (.text body) context workspace = .ok value later) :
    ∃ lines text, ReadsAll true (rows body) lines ∧ text = Text.join ['\n'] (document [] lines) ∧
      value = .text text ∧
      (∀ numeral count, IsNumeral numeral count →
        ∃ later, renderSource (.text (margin ++ '-' :: ' ' :: loopCode numeral ++ '\n' :: body))
          context workspace = .ok (.text (Text.join ['\n'] (List.replicate count text))) later) ∧
      ∀ code callee names count shown, OneLine margin code → IsCallee code callee names →
        "str".toList ∉ names → escapeName ∉ names →
        CallsBlock workspace.store context.page names callee count shown →
        ∃ later, renderSource (.text (margin ++ '=' :: ' ' :: code ++ '\n' :: body))
          context workspace = .ok (.ofPoints (joined (List.replicate count (Points.ofText text) ++
            [Points.ofText (Text.spaces margin.length) ++ shown]))) later := by
  obtain ⟨lines, below, readable, filled, rfl⟩ :=
    below_of_rendered lexed plain present deep rendered
  refine ⟨lines, _, below.reads, rfl, rfl, fun numeral count isNumeral => ?_,
    fun code callee names count shown oneLine isCallee free unescaped calls => ?_⟩
  · exact renderSource_loop indents below readable filled isNumeral workspace
  · exact renderSource_call below readable filled oneLine isCallee free unescaped workspace calls

def pageContext : Context := ⟨⟨"oracle.Page".toList, .page, []⟩, .page 0⟩

/-- A workspace with nothing but a page without attributes. -/
def pageWorkspace : Workspace :=
  { Workspace.ofTree ⟨[], []⟩ with store := Script.Store.empty.push (.page ⟨.page, []⟩) }

open String (toList_ofList)

def itemsBody : Text := "  %ul\n    %li x\n".toList

theorem offers_method {name : Text} {method : Script.PageMethod}
    (known : Script.Builtin.pageMethod? name = some method) :
    Offers pageWorkspace.store 0 name method :=
  ⟨⟨[], rfl, rfl⟩, known⟩

theorem isCallee_twice : IsCallee "self.twice".toList (methodOf "twice".toList) [] where
  readable := by decide
  read := by
    rw [calledCode, show "self.twice".toList = _ from toList_ofList,
      show ")(_block_0)".toList = _ from toList_ofList]
    rfl
  room := by decide +kernel
  sits := sits_methodOf _

def itemsText : Text := "  <ul>\n    <li>x</li>\n  </ul>".toList

def itemsEntries : List Entry :=
  [⟨⟨false, "  <ul>".toList⟩, []⟩, ⟨⟨false, "    ".toList⟩, [⟨false, "<li>".toList⟩,
    ⟨true, ['x']⟩, ⟨false, "</li>".toList⟩]⟩, ⟨⟨false, "  </ul>".toList⟩, []⟩]

theorem items_rendered : ∃ later,
    renderSource (.text itemsBody) pageContext pageWorkspace = .ok (.text itemsText) later := by
  have built : (Program.ofSource itemsBody pageContext.type.name).toOption.map
      (fun program => program.body.map Statement.expression?) =
        some (itemsEntries.map fun entry => some entry.code) := by
    rw [show itemsBody = _ from toList_ofList]
    decide +kernel
  have joined : Text.join ['\n'] (itemsEntries.map Entry.shown) = itemsText := by
    rw [show itemsText = _ from toList_ofList]
    decide +kernel
  rw [← joined]
  exact renderSource_entries built (by decide +kernel) pageWorkspace

theorem items_plain :
    ∃ tokens, Lexer.lex itemsBody = .ok tokens ∧ ∀ token ∈ tokens, Plain token := by
  have lexes : (Lexer.lex itemsBody).toOption.map (fun tokens =>
      decide (∀ token ∈ tokens, token.kind ≠ .expression ∧ token.kind ≠ .bracketExpression)) =
        some true := by decide +kernel
  obtain ⟨tokens, lexed, plain⟩ := Outcome.ok_of_map lexes
  exact ⟨tokens, lexed, fun token member => ⟨(of_decide_eq_true plain token member).1,
    (of_decide_eq_true plain token member).2⟩⟩

theorem items_deep : rows itemsBody ≠ [] ∧ ∀ row ∈ rows itemsBody, 0 < row.depth := by decide +kernel

theorem renderSource_blocks_items :
    ∃ first last,
      renderSource (.text ("- for i in range(2)\n".toList ++ itemsBody)) pageContext pageWorkspace =
        .ok (.text (itemsText ++ '\n' :: itemsText)) first ∧
      renderSource (.text ("= self.twice\n".toList ++ itemsBody)) pageContext pageWorkspace =
        .ok (.text (itemsText ++ '\n' :: itemsText ++ "\n2".toList)) last := by
  obtain ⟨tokens, lexed, plain⟩ := items_plain
  obtain ⟨later, rendered⟩ := items_rendered
  obtain ⟨_, text, _, _, same, loops, calls⟩ := renderSource_blocks
    (show ∀ c ∈ ([] : Text), Text.isIndent c = true from List.forall_mem_nil _) lexed plain
    items_deep.1 items_deep.2 rendered
  obtain rfl : text = itemsText := (Script.Value.text.inj same).symm
  obtain ⟨first, looped⟩ := loops (Text.decimal 2) 2 (isNumeral_decimal (by decide))
  have oneLine : OneLine [] "self.twice".toList := by
    refine ⟨List.forall_mem_nil _, inside_of_all (by decide), ?_, by decide +kernel⟩
    intro c first
    cases first
    rfl
  obtain ⟨last, called⟩ := calls "self.twice".toList _ [] 2 _ oneLine isCallee_twice List.not_mem_nil
    List.not_mem_nil (callsBlock_methodOf rfl (offers_method rfl) [])
  have entries : List.replicate 2 (Points.ofText itemsText) ++
      [Points.ofText (Text.spaces ([] : Text).length) ++ Points.ofText ['2']] =
        [itemsText, itemsText, ['2']].map Points.ofText := rfl
  refine ⟨first, last, ?_, ?_⟩
  · exact looped
  · rw [entries, ofPoints_joined] at called
    exact called

/-! ### Code that keeps the block from being called -/

/-- Whether code stands for what calls its argument once, and yet is not rendered with lines below
it. -/
def Refuses (code : Text) (callee : Script.Expr) (names : List Text) : Prop :=
  Script.parseExpression code = some callee ∧
    CallsBlock pageWorkspace.store pageContext.page names callee 1 (Points.ofText "wrapped".toList) ∧
    ∃ fault later, renderSource (.text ("= ".toList ++ code ++ '\n' :: itemsBody)) pageContext
      pageWorkspace = .error fault later

theorem refused {code : Text}
    (fails : (match renderSource (.text ("= ".toList ++ code ++ '\n' :: itemsBody)) pageContext
      pageWorkspace with
      | .ok _ _ => false
      | .error _ _ => true) = true) :
    ∃ fault later, renderSource (.text ("= ".toList ++ code ++ '\n' :: itemsBody)) pageContext
      pageWorkspace = .error fault later := by
  split at fails
  next => cases fails
  next fault later ran => exact ⟨fault, later, ran⟩

/-- Code may hide what generated code calls, or what stands behind it on the line. -/
theorem hiding_is_refused :
    (∃ tokens, Lexer.lex itemsBody = .ok tokens ∧ ∀ token ∈ tokens, Plain token) ∧
      (rows itemsBody ≠ [] ∧ ∀ row ∈ rows itemsBody, 0 < row.depth) ∧
      (∃ later, renderSource (.text itemsBody) pageContext pageWorkspace =
        .ok (.text itemsText) later) ∧
      Refuses "(str := self.wrap)".toList (.named "str".toList (methodOf "wrap".toList))
        ["str".toList] ∧
      Refuses "self.wrap # note".toList (methodOf "wrap".toList) [] := by
  have named : Script.parseExpression "(str := self.wrap)".toList =
      some (.named "str".toList (methodOf "wrap".toList)) := by
    rw [show "(str := self.wrap)".toList = _ from toList_ofList]
    rfl
  have noted : Script.parseExpression "self.wrap # note".toList = some (methodOf "wrap".toList) := by
    rw [show "self.wrap # note".toList = _ from toList_ofList]
    rfl
  have opened (contextType : Text) := Program.opening_of_chars contextType toList_ofList toList_ofList
    toList_ofList toList_ofList
  refine ⟨items_plain, items_deep, items_rendered, ⟨named, ?_, refused ?_⟩, ⟨noted, ?_, refused ?_⟩⟩
  · exact callsBlock_named rfl (offers_method rfl) (List.mem_singleton.mpr rfl) (by decide)
  · rw [renderSource_quiet rfl, show "(str := self.wrap)".toList = _ from toList_ofList,
      show itemsBody = _ from toList_ofList]
    simp only [Program.code, Program.codeLines, opened]
    decide +kernel
  · exact callsBlock_methodOf rfl (offers_method rfl) []
  · rw [renderSource_quiet rfl, show "self.wrap # note".toList = _ from toList_ofList,
      show itemsBody = _ from toList_ofList]
    simp only [Program.code, Program.codeLines, opened]
    decide +kernel

end Stencil
