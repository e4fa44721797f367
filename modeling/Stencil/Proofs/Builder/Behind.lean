import Stencil.Proofs.Builder.Run
import Stencil.Proofs.Builder.Sharing
import Stencil.Proofs.Text.Unique
import Stencil.Proofs.Turn.Reading

/-!
Statements that come behind others. Their functions are numbered behind those before them, and share
what is bound before them too. A builder that begins behind other statements builds such statements.
-/

set_option autoImplicit false

namespace Stencil

open Markup (boundNames)

namespace Statement

@[simp] def isFunction : Statement → Bool
  | function _ _ _ => true
  | _ => false

mutual

/-- The names that silent code binds in a statement, but those bound in a function. -/
@[simp] def recorded : Statement → List Text
  | line (.control code _) => boundNames code
  | line (.output _) => []
  | block header body => boundNames header ++ recordedOf false body
  | function _ _ _ => []

/-- The names that silent code binds in statements. The first of them is no silent code if it calls
the function that stands before it. -/
@[simp] def recordedOf (calls : Bool) : List Statement → List Text
  | [] => []
  | first :: rest => (if calls then [] else recorded first) ++ recordedOf first.isFunction rest

end

mutual

/-- How many functions there are in a statement. -/
@[simp] def functionCount : Statement → Nat
  | line _ => 0
  | block _ body => functionCountOf body
  | function _ _ body => functionCountOf body + 1

@[simp] def functionCountOf : List Statement → Nat
  | [] => 0
  | first :: rest => functionCount first + functionCountOf rest

end

theorem functionCountOf_append (left right : List Statement) :
    functionCountOf (left ++ right) = functionCountOf left + functionCountOf right := by
  induction left with
  | nil => simp [functionCountOf]
  | cons first rest ih => rw [List.cons_append, functionCountOf, functionCountOf, ih, Nat.add_assoc]

/-- The names that a function shares where more names are known around it. -/
def sharedWith (known shared : List Text) (body : List Statement) : List Text :=
  Text.sortUnique (shared ++ (recordedOf false body).filter known.contains)

end Statement

open Statement (recordedOf functionCountOf sharedWith)

/-- Statements, and how they are behind others that have so many functions and record such names. -/
inductive Behind (count : Nat) (known : List Text) : List Statement → List Statement → Prop where
  | nil : Behind count known [] []
  | output (one : Output) {rest others : List Statement} (later : Behind count known rest others) :
      Behind count known (.line (.output one) :: rest) (.line (.output one) :: others)
  | code (code : Text) {rest others : List Statement} (later : Behind count known rest others) :
      Behind count known (.control code :: rest) (.control code :: others)
  | block (header : Text) {body inner rest others : List Statement}
      (inside : Behind count known body inner) (later : Behind count known rest others) :
      Behind count known (.block header body :: rest) (.block header inner :: others)
  | call (number depth : Nat) (code : Text) (shared : List Text)
      {body inner rest others : List Statement} (inside : Behind count known body inner)
      (later : Behind count known rest others) :
      Behind count known
        (.function number shared body ::
          .control (Builder.callStatement depth code number) :: rest)
        (.function (number + count) (sharedWith known shared body) inner ::
          .control (Builder.callStatement depth code (number + count)) :: others)

namespace Behind

variable {count : Nat} {known : List Text} {statements others more later : List Statement}

theorem append (first : Behind count known statements others)
    (second : Behind count known more later) :
    Behind count known (statements ++ more) (others ++ later) := by
  induction first with
  | nil => exact second
  | output one _ ih => exact .output one ih
  | code code _ ih => exact .code code ih
  | block header inside _ _ ih => exact .block header inside ih
  | call number depth code shared inside _ _ ih => exact .call number depth code shared inside ih

theorem recordedOf_append (behind : Behind count known statements others)
    (more : List Statement) :
    recordedOf false (statements ++ more) = recordedOf false statements ++ recordedOf false more := by
  induction behind with
  | nil => rfl
  | output one _ ih => simpa using ih
  | code code _ ih =>
    simpa [Statement.control] using ih
  | block header inside _ _ ih =>
    simpa using ih
  | call number depth code shared inside _ _ ih =>
    simpa [Statement.control] using ih

end Behind

namespace Builder

/-- What two builders have built, layer by layer, the second one behind other statements. On its
stack there may be indentations at the margin below all else. -/
inductive Layers (count : Nat) (earlier : List Statement) :
    Nat → List Statement → List Text → List Pending →
      List Statement → List Text → List Pending → Prop where
  | floor {statements others : List Statement} {roots : List Pending}
      (behind : Behind count (recordedOf false earlier) statements others)
      (margin : ∀ root ∈ roots, root = .indent 0) :
      Layers count earlier (functionCountOf statements)
        statements.reverse (initial.names ++ recordedOf false statements) []
        (others.reverse ++ earlier.reverse)
        (initial.names ++ recordedOf false earlier ++ recordedOf false statements) roots
  | indent (depth : Nat) {calls : Nat} {body also : List Statement} {names more : List Text}
      {pending stack : List Pending}
      (under : Layers count earlier calls body names pending also more stack) :
      Layers count earlier calls body names (.indent depth :: pending)
        also more (.indent depth :: stack)
  | endTag (depth : Nat) (text : Text) {calls : Nat} {body also : List Statement}
      {names more : List Text} {pending stack : List Pending}
      (under : Layers count earlier calls body names pending also more stack) :
      Layers count earlier calls body names (.endTag depth text :: pending)
        also more (.endTag depth text :: stack)
  | block (depth : Nat) (header : Text) {calls : Nat} {before also : List Statement}
      {names more : List Text} {pending stack : List Pending}
      (under : Layers count earlier calls before names pending also more stack)
      {statements others : List Statement}
      (behind : Behind count (recordedOf false earlier) statements others) :
      Layers count earlier (calls + functionCountOf statements)
        statements.reverse (names ++ boundNames header ++ recordedOf false statements)
        (.block depth header before :: pending)
        others.reverse (more ++ boundNames header ++ recordedOf false statements)
        (.block depth header also :: stack)
  | call (depth : Nat) (code : Text) {calls : Nat} {before also : List Statement}
      {names more : List Text} {pending stack : List Pending}
      (under : Layers count earlier calls before names pending also more stack)
      {statements others : List Statement}
      (behind : Behind count (recordedOf false earlier) statements others) :
      Layers count earlier (calls + (functionCountOf statements + 1))
        statements.reverse (recordedOf false statements)
        (.call depth code calls names before :: pending)
        others.reverse (recordedOf false statements)
        (.call depth code (calls + count) more also :: stack)

namespace Layers

variable {count calls : Nat} {earlier body also statements others : List Statement}
  {names more : List Text} {pending stack : List Pending}

theorem extend (layers : Layers count earlier calls body names pending also more stack)
    (behind : Behind count (recordedOf false earlier) statements others) :
    Layers count earlier (calls + functionCountOf statements)
      (statements.reverse ++ body) (names ++ recordedOf false statements) pending
      (others.reverse ++ also) (more ++ recordedOf false statements) stack := by
  induction layers with
  | floor first margin =>
    have found := Layers.floor (first.append behind) margin
    simpa [first.recordedOf_append, Statement.functionCountOf_append] using found
  | indent depth _ ih => exact .indent depth ih
  | endTag depth text _ ih => exact .endTag depth text ih
  | block depth header under first _ =>
    have found := Layers.block depth header under (first.append behind)
    simpa [first.recordedOf_append, Statement.functionCountOf_append, Nat.add_assoc] using found
  | call depth code under first _ =>
    have found := Layers.call depth code under (first.append behind)
    simpa [first.recordedOf_append, Statement.functionCountOf_append, Nat.add_assoc,
      Nat.add_comm 1] using found

/-- What is known in the second, and around it, is known in the first or was recorded earlier. -/
theorem known (layers : Layers count earlier calls body names pending also more stack)
    (name : Text) :
    name ∈ more ++ stack.flatMap Pending.names ↔
      name ∈ names ++ pending.flatMap Pending.names ∨ name ∈ recordedOf false earlier := by
  induction layers with
  | @floor statements others roots behind margin =>
    have quiet : roots.flatMap Pending.names = [] :=
      List.flatMap_eq_nil_iff.mpr fun root member => by rw [margin root member]; rfl
    simp only [quiet, List.append_nil, List.flatMap_nil, List.mem_append]
    exact or_right_comm
  | indent depth _ ih => exact ih
  | endTag depth text _ ih => exact ih
  | block depth header _ _ ih =>
    simp only [List.mem_append, List.flatMap_cons, Pending.names, List.nil_append] at ih ⊢
    grind
  | call depth code _ _ ih =>
    simp only [List.mem_append, List.flatMap_cons, Pending.names] at ih ⊢
    grind

end Layers

/-- Two builders, the second one behind other statements. -/
structure Beside (count : Nat) (earlier : List Statement) (builder other : Builder) : Prop where
  calls : other.calls = builder.calls + count
  layers : Layers count earlier builder.calls builder.body builder.names builder.pending
    other.body other.names other.pending

namespace Beside

variable {count : Nat} {earlier : List Statement} {builder other next : Builder}

theorem depth (beside : Beside count earlier builder other) : other.depth = builder.depth := by
  obtain ⟨body, names, pending, calls⟩ := builder
  obtain ⟨also, more, stack, others⟩ := other
  obtain ⟨_, layers⟩ := beside
  simp only at layers
  cases layers with
  | floor _ margin =>
    cases stack with
    | nil => rfl
    | cons root rest =>
      have bottom := margin root (List.mem_cons_self ..)
      simp [Builder.depth, bottom, Pending.depth]
  | indent | endTag | block | call => rfl

/-! ### Adding -/

theorem emit_output (beside : Beside count earlier builder other) (one : Output) :
    Beside count earlier (builder.emit (.line (.output one)))
      (other.emit (.line (.output one))) := by
  refine ⟨beside.calls, ?_⟩
  simpa [emit] using beside.layers.extend (.output one .nil)

theorem emitLine (beside : Beside count earlier builder other) (kind : OutputKind) (body : Text) :
    Beside count earlier (builder.emitLine kind body) (other.emitLine kind body) := by
  rw [Builder.emitLine, Builder.emitLine, beside.depth]
  exact beside.emit_output ⟨kind, body, builder.depth⟩

theorem statement (beside : Beside count earlier builder other) {code : Text}
    (added : builder.add (.statement code) = .ok next) :
    ∃ after, other.add (.statement code) = .ok after ∧ Beside count earlier next after := by
  obtain ⟨names, bound, rfl⟩ := add_statement added
  refine ⟨{ other with body := .control code :: other.body, names := other.names ++ names }, ?_,
    beside.calls, ?_⟩
  · simp [add, bind, bound, emit, pure, Except.pure]
  · simpa [Statement.control, boundNames_eq bound] using beside.layers.extend (.code code .nil)

theorem block (beside : Beside count earlier builder other) {header : Text}
    (added : builder.add (.block header) = .ok next) :
    ∃ after, other.add (.block header) = .ok after ∧ Beside count earlier next after := by
  obtain ⟨names, bound, rfl⟩ := add_block added
  refine ⟨{ other with
    body := [], names := other.names ++ names,
    pending := .block other.depth header other.body :: other.pending }, ?_, beside.calls, ?_⟩
  · simp [add, bind, bound, pure, Except.pure, Builder.depth]
  · have found := Layers.block builder.depth header beside.layers .nil
    simpa [boundNames_eq bound, beside.depth] using found

theorem call (beside : Beside count earlier builder other) (code : Text)
    (added : builder.add (.call code) = .ok next) :
    ∃ after, other.add (.call code) = .ok after ∧ Beside count earlier next after := by
  cases added
  refine ⟨_, rfl, ?_, ?_⟩
  · simp only [beside.calls]
    omega
  · have found := Layers.call builder.depth code beside.layers .nil
    simpa [beside.depth, beside.calls] using found

theorem add (beside : Beside count earlier builder other) {content : Content}
    (added : builder.add content = .ok next) :
    ∃ after, other.add content = .ok after ∧ Beside count earlier next after := by
  cases content with
  | absent =>
    cases added
    exact ⟨other, rfl, beside⟩
  | output kind body =>
    cases added
    exact ⟨_, rfl, beside.emitLine kind body⟩
  | statement code => exact beside.statement added
  | block header => exact beside.block added
  | call code => exact beside.call code added

theorem openTag (beside : Beside count earlier builder other) (text : TagText) :
    Beside count earlier (builder.openTag text) (other.openTag text) := by
  have opened := beside.emitLine .safe text.start
  rw [Builder.openTag, Builder.openTag, beside.depth]
  exact ⟨opened.calls, .endTag builder.depth text.stop opened.layers⟩

theorem addTurn (beside : Beside count earlier builder other) {turn : Turn}
    (added : builder.addTurn turn = .ok next) :
    ∃ after, other.addTurn turn = .ok after ∧ Beside count earlier next after := by
  obtain ⟨indent, tag, content, ends⟩ := turn
  cases tag with
  | none => exact beside.add added
  | some text =>
    have opened {next : Builder} (added : (builder.openTag text).add content = .ok next) :
        ∃ after, (other.openTag text).add content = .ok after ∧ Beside count earlier next after :=
      (beside.openTag text).add added
    cases content with
    | absent =>
      cases ends with
      | true =>
        cases added
        exact ⟨_, rfl, beside.emitLine .safe (text.start ++ text.stop)⟩
      | false => exact opened added
    | output kind body =>
      cases ends with
      | true =>
        cases added
        exact ⟨_, rfl, beside.emitLine .expression (fused text kind body)⟩
      | false => exact opened added
    | _ => cases ends <;> exact opened added

/-! ### Closing -/

theorem closeTop (beside : Beside count earlier builder other) {top : Pending}
    {rest : List Pending} (filled : builder.pending = top :: rest) :
    ∃ bottom below, other.pending = bottom :: below ∧ bottom.depth = top.depth ∧
      Beside count earlier (builder.closeTop rest top) (other.closeTop below bottom) := by
  obtain ⟨body, names, pending, calls⟩ := builder
  obtain ⟨also, more, stack, others⟩ := other
  obtain ⟨counted, layers⟩ := beside
  simp only at counted layers filled
  subst filled
  cases layers with
  | indent depth under => exact ⟨_, _, rfl, rfl, counted, under⟩
  | endTag depth text under =>
    refine ⟨_, _, rfl, rfl, counted, ?_⟩
    simpa [Builder.closeTop] using under.extend (.output ⟨.safe, text, depth⟩ .nil)
  | block depth header under behind =>
    refine ⟨_, _, rfl, rfl, counted, ?_⟩
    simpa [Builder.closeTop] using under.extend (.block header behind .nil)
  | @call depth code calls before also names more pending stack under statements inner behind =>
    refine ⟨_, _, rfl, rfl, counted, ?_⟩
    let shared := sharedNames (recordedOf false statements)
      (names ++ rest.flatMap Pending.names)
    have same : sharedNames (recordedOf false statements) (more ++ stack.flatMap Pending.names) =
        sharedWith (recordedOf false earlier) shared statements := by
      apply Text.sortUnique_congr
      intro name
      have knows := under.known name
      simp only [shared, sharedNames, List.mem_append, Text.mem_sortUnique, List.mem_filter,
        List.contains_iff_mem] at knows ⊢
      rw [knows]
      exact and_or_left
    have found := under.extend (.call calls depth code shared behind .nil)
    rw [← same] at found
    simpa [Builder.closeTop, Statement.control] using found

/-- An indentation at the margin comes down beside nothing. -/
theorem close_roots (beside : Beside count earlier builder other) (empty : builder.pending = [])
    (downTo : Nat) {roots : List Pending} (stack : other.pending = roots) :
    Beside count earlier builder (closeStack downTo roots other) := by
  induction roots generalizing other with
  | nil =>
    rw [closeStack, ← stack]
    exact beside
  | cons root rest ih =>
    obtain ⟨body, names, pending, calls⟩ := builder
    obtain ⟨also, more, below, others⟩ := other
    obtain ⟨counted, layers⟩ := beside
    simp only at counted layers empty stack
    subst empty stack
    cases layers with
    | floor behind margin =>
      obtain ⟨rfl, below⟩ := List.forall_mem_cons.mp margin
      rw [closeStack]
      split
      next => exact ih ⟨counted, .floor behind below⟩ rfl
      next => exact ⟨counted, .floor behind margin⟩

theorem closeTo (beside : Beside count earlier builder other) (downTo : Nat) :
    Beside count earlier (builder.closeTo downTo) (other.closeTo downTo) := by
  suffices every : ∀ (pending : List Pending) (builder other : Builder),
      builder.pending = pending → Beside count earlier builder other →
      Beside count earlier (closeStack downTo pending builder)
        (closeStack downTo other.pending other) from
    every builder.pending builder other rfl beside
  intro pending
  induction pending with
  | nil =>
    intro builder other empty beside
    rw [closeStack, ← empty]
    exact beside.close_roots empty downTo rfl
  | cons top rest ih =>
    intro builder other filled beside
    obtain ⟨bottom, below, stack, depth, closed⟩ := beside.closeTop filled
    have left : (builder.closeTop rest top).pending = rest := by cases top <;> rfl
    have also : (other.closeTop below bottom).pending = below := by cases bottom <;> rfl
    rw [stack, closeStack, closeStack, depth]
    split
    next =>
      have found := ih _ _ left closed
      rwa [also] at found
    next =>
      rw [← filled, ← stack]
      exact beside

/-! ### Turns -/

theorem push_indent (beside : Beside count earlier builder other) (depth : Nat) :
    Beside count earlier (builder.push (.indent depth)) (other.push (.indent depth)) :=
  ⟨beside.calls, .indent depth beside.layers⟩

theorem push_root (beside : Beside count earlier builder other) (empty : builder.pending = []) :
    Beside count earlier builder (other.push (.indent 0)) := by
  obtain ⟨body, names, pending, calls⟩ := builder
  obtain ⟨also, more, stack, others⟩ := other
  obtain ⟨counted, layers⟩ := beside
  simp only at counted layers empty
  subst empty
  cases layers with
  | floor behind margin =>
    exact ⟨counted, .floor behind (List.forall_mem_cons.mpr ⟨rfl, margin⟩)⟩

theorem shift (beside : Beside count earlier builder other) (indent : Option Nat) :
    Beside count earlier (builder.shift indent) (other.shift indent) := by
  cases indent with
  | none => exact beside
  | some depth => exact (beside.closeTo depth).push_indent depth

theorem takeTurn (beside : Beside count earlier builder other) {turn : Turn}
    (taken : builder.takeTurn turn = .ok next) :
    ∃ after, other.takeTurn turn = .ok after ∧ Beside count earlier next after :=
  (beside.shift turn.indent).addTurn taken

theorem takeTurns (beside : Beside count earlier builder other) {turns : List Turn}
    (taken : builder.takeTurns turns = .ok next) :
    ∃ after, other.takeTurns turns = .ok after ∧ Beside count earlier next after := by
  induction turns generalizing builder other with
  | nil =>
    cases taken
    exact ⟨other, rfl, beside⟩
  | cons turn rest ih =>
    obtain ⟨between, first, later⟩ := Outcome.bind_eq_ok.mp taken
    obtain ⟨mid, also, kept⟩ := beside.takeTurn first
    obtain ⟨after, last, done⟩ := ih kept later
    refine ⟨after, ?_, done⟩
    rw [Builder.takeTurns, also]
    exact last

/-- With nothing left open all that has been built is there. -/
theorem floor (beside : Beside count earlier builder other) (empty : builder.pending = []) :
    ∃ later, other.body.reverse = earlier ++ later ∧
      Behind count (recordedOf false earlier) builder.body.reverse later ∧
      builder.names = initial.names ++ recordedOf false builder.body.reverse ∧
      builder.calls = functionCountOf builder.body.reverse := by
  obtain ⟨body, names, pending, calls⟩ := builder
  obtain ⟨also, more, stack, others⟩ := other
  obtain ⟨counted, layers⟩ := beside
  simp only at layers empty
  subst empty
  cases layers with
  | @floor statements others _ behind margin =>
    exact ⟨others, by simp, by simpa using behind, by simp, by simp⟩

end Beside

theorem pending_closeTo_zero (builder : Builder) : (builder.closeTo 0).pending = [] := by
  rw [Builder.closeTo, pending_closeStack]
  cases builder.pending <;> simp

end Builder

end Stencil
