import Stencil.Proofs.Layout.Turn
import Stencil.Proofs.Naming.Statement

/-!
What a builder holds is written line by line: no statement of it runs over the end of its line.
-/

set_option autoImplicit false

namespace Stencil

open Text (Unbroken)

theorem Output.unbroken_expression {output : Output} (unbroken : Unbroken output.content) :
    Unbroken output.expression := by
  have name : Unbroken escapeName := by decide
  have spaces : Unbroken output.indentation := Text.unbroken_spaces _
  unfold expression
  split
  next => simp [literalOf, name, spaces, unbroken]
  next => simp [literalOf, spaces, unbroken]
  next =>
    split
    next => simp [literalOf, spaces, unbroken]
    next => exact unbroken

theorem unbroken_appending {code : Text} (unbroken : Unbroken code) : Unbroken (appending code) := by
  have name : Unbroken outputName := by decide
  simp [appending, name, unbroken]

namespace Statement

/-- Every line of a statement is one line, and its headers end in a colon. -/
inductive OnLines : Statement → Prop where
  | line {one : Line} (unbroken : Unbroken one.statementForm) : OnLines (.line one)
  | block {header : Text} {body : List Statement} (unbroken : Unbroken header)
      (colon : header.getLast? = some ':') (inside : ∀ inner ∈ body, OnLines inner) :
      OnLines (.block header body)
  | function {number : Nat} {shared : List Text} {body : List Statement}
      (names : ∀ name ∈ shared, Unbroken name) (inside : ∀ inner ∈ body, OnLines inner) :
      OnLines (.function number shared body)

theorem onLines_output {output : Output} (unbroken : Unbroken output.content) :
    OnLines (.line (.output output)) :=
  .line (unbroken_appending (Output.unbroken_expression unbroken))

theorem unbroken_blockName (number : Nat) : Unbroken (blockName number) :=
  Text.unbroken_append.mpr ⟨by decide, Text.unbroken_decimal number⟩

theorem unbroken_blockHeader (number : Nat) : Unbroken (blockHeader number) :=
  Text.unbroken_append.mpr
    ⟨Text.unbroken_append.mpr ⟨by decide, unbroken_blockName number⟩, by decide⟩

theorem unbroken_sharing {shared : List Text} (names : ∀ name ∈ shared, Unbroken name)
    (level : Nat) : ∀ line ∈ sharing level shared, Unbroken line.content := by
  have between : Unbroken ", ".toList := by decide
  unfold sharing
  split
  next => simp
  next =>
    exact List.forall_mem_singleton.mpr
      (Text.unbroken_append.mpr ⟨by decide, Text.unbroken_join between names⟩)

theorem mem_codeLinesOf {level : Nat} {statements : List Statement} {line : CodeLine} :
    line ∈ codeLinesOf level statements ↔ ∃ one ∈ statements, line ∈ codeLines level one := by
  induction statements with
  | nil => simp [codeLinesOf]
  | cons first rest ih => simp [codeLinesOf, ih]

theorem OnLines.unbroken {statement : Statement} (onLines : OnLines statement) (level : Nat) :
    ∀ line ∈ codeLines level statement, Unbroken line.content := by
  have pass : Unbroken "pass".toList := by decide
  induction onLines generalizing level with
  | line unbroken => exact List.forall_mem_singleton.mpr unbroken
  | block unbroken _ _ ih =>
    refine List.forall_mem_cons.mpr ⟨unbroken, List.forall_mem_cons.mpr ⟨pass, ?_⟩⟩
    intro line member
    obtain ⟨inner, inside, found⟩ := mem_codeLinesOf.mp member
    exact ih inner inside _ line found
  | @function number _ _ names _ ih =>
    refine List.forall_mem_cons.mpr ⟨unbroken_blockHeader number, ?_⟩
    refine List.forall_mem_cons.mpr ⟨pass, ?_⟩
    refine List.forall_mem_append.mpr ⟨unbroken_sharing names _, fun line member => ?_⟩
    obtain ⟨inner, inside, found⟩ := mem_codeLinesOf.mp member
    exact ih inner inside _ line found

end Statement

/-! ### Builders -/

def Pending.OnLines : Pending → Prop
  | indent _ => True
  | endTag _ body => Unbroken body
  | block _ header before =>
    (Unbroken header ∧ header.getLast? = some ':') ∧ ∀ statement ∈ before, statement.OnLines
  | call _ code _ names before =>
    Unbroken code ∧ (∀ name ∈ names, Unbroken name) ∧ ∀ statement ∈ before, statement.OnLines

namespace Builder

structure OnLines (builder : Builder) : Prop where
  body : ∀ statement ∈ builder.body, statement.OnLines
  names : ∀ name ∈ builder.names, Unbroken name
  pending : ∀ one ∈ builder.pending, one.OnLines

theorem onLines_initial : initial.OnLines where
  body := by simp [initial]
  names := by
    simp only [initial, List.forall_mem_cons]
    exact ⟨by decide, by decide, by simp⟩
  pending := by simp [initial]

variable {builder next : Builder}

theorem OnLines.emit (onLines : builder.OnLines) {statement : Statement}
    (known : statement.OnLines) : (builder.emit statement).OnLines :=
  { onLines with body := List.forall_mem_cons.mpr ⟨known, onLines.body⟩ }

theorem OnLines.emitLine (onLines : builder.OnLines) (kind : OutputKind) {content : Text}
    (unbroken : Unbroken content) : (builder.emitLine kind content).OnLines :=
  onLines.emit (Statement.onLines_output unbroken)

theorem OnLines.push (onLines : builder.OnLines) {one : Pending} (known : one.OnLines) :
    (builder.push one).OnLines :=
  { onLines with pending := List.forall_mem_cons.mpr ⟨known, onLines.pending⟩ }

/-! ### Closing -/

theorem unbroken_callStatement {code : Text} (unbroken : Unbroken code) (depth number : Nat) :
    Unbroken (callStatement depth code number) := by
  refine unbroken_appending ?_
  simp [literalOf, Text.unbroken_spaces, unbroken, Statement.unbroken_blockName]

theorem OnLines.closeTop (onLines : builder.OnLines) {top : Pending} {rest : List Pending}
    (known : top.OnLines) (others : ∀ one ∈ rest, one.OnLines) :
    (builder.closeTop rest top).OnLines := by
  have inside : ∀ statement ∈ builder.body.reverse, statement.OnLines := fun statement member =>
    onLines.body statement (List.mem_reverse.mp member)
  cases top with
  | indent depth => exact ⟨onLines.body, onLines.names, others⟩
  | endTag depth body =>
    exact ⟨List.forall_mem_cons.mpr ⟨Statement.onLines_output known, onLines.body⟩, onLines.names,
      others⟩
  | block depth header before =>
    obtain ⟨⟨unbroken, colon⟩, earlier⟩ := known
    exact ⟨List.forall_mem_cons.mpr ⟨.block unbroken colon inside, earlier⟩, onLines.names, others⟩
  | call depth code number names before =>
    obtain ⟨unbroken, outer, earlier⟩ := known
    have call : (Statement.control (callStatement depth code number)).OnLines :=
      .line (unbroken_callStatement unbroken depth number)
    have shared : ∀ name ∈ sharedNames builder.names (names ++ rest.flatMap Pending.names),
        Unbroken name := fun name member =>
      onLines.names name (List.mem_filter.mp (Text.mem_sortUnique.mp member)).1
    exact ⟨List.forall_mem_cons.mpr ⟨call, List.forall_mem_cons.mpr
      ⟨.function shared inside, earlier⟩⟩, outer, others⟩

theorem OnLines.closeStack {downTo : Nat} {stack : List Pending} (onLines : builder.OnLines)
    (known : ∀ one ∈ stack, one.OnLines) : (closeStack downTo stack builder).OnLines := by
  induction stack generalizing builder with
  | nil => exact { onLines with pending := by simp [Builder.closeStack] }
  | cons top rest ih =>
    obtain ⟨first, others⟩ := List.forall_mem_cons.mp known
    rw [Builder.closeStack]
    split
    next => exact ih (onLines.closeTop first others) others
    next => exact { onLines with pending := known }

theorem OnLines.closeTo (onLines : builder.OnLines) (downTo : Nat) :
    (builder.closeTo downTo).OnLines := onLines.closeStack onLines.pending

theorem OnLines.shift (onLines : builder.OnLines) (indent : Option Nat) :
    (builder.shift indent).OnLines := by
  cases indent with
  | none => exact onLines
  | some depth => exact (onLines.closeTo depth).push trivial

/-! ### Turns -/

theorem OnLines.bind (onLines : builder.OnLines) {code : Text}
    (bound : builder.bind code = .ok next) : next.OnLines := by
  unfold Builder.bind at bound
  split at bound
  next names found =>
    cases bound
    exact { onLines with
      names := List.forall_mem_append.mpr
        ⟨onLines.names, Script.unbroken_assignedNames found⟩ }
  next => cases bound
  next => cases bound

theorem OnLines.add (onLines : builder.OnLines) {content : Content} (known : content.OnLine)
    (added : builder.add content = .ok next) : next.OnLines := by
  cases content with
  | absent =>
    cases added
    exact onLines
  | output kind body =>
    cases added
    exact onLines.emitLine kind known
  | statement code =>
    obtain ⟨middle, bound, added⟩ := Outcome.bind_eq_ok.mp added
    cases added
    exact (onLines.bind bound).emit (.line known)
  | block header =>
    obtain ⟨middle, bound, added⟩ := Outcome.bind_eq_ok.mp added
    cases added
    have between := onLines.bind bound
    exact ⟨by simp, between.names,
      List.forall_mem_cons.mpr ⟨⟨known, between.body⟩, between.pending⟩⟩
  | call code =>
    cases added
    exact ⟨by simp, by simp,
      List.forall_mem_cons.mpr ⟨⟨known, onLines.names, onLines.body⟩, onLines.pending⟩⟩

theorem TagText.OnLine.start {text : TagText} (onLine : text.OnLine) : Unbroken text.start := by
  simp [TagText.start, onLine.name, onLine.attributes]

theorem TagText.OnLine.stop {text : TagText} (onLine : text.OnLine) : Unbroken text.stop := by
  simp [TagText.stop, onLine.name]

theorem unbroken_fused {text : TagText} (onLine : text.OnLine) (kind : OutputKind) {body : Text}
    (unbroken : Unbroken body) : Unbroken (fused text kind body) := by
  refine Text.unbroken_join (by decide) fun part member => ?_
  obtain ⟨output, inside, rfl⟩ := List.mem_map.mp member
  refine Output.unbroken_expression ?_
  simp only [List.mem_cons, List.not_mem_nil, or_false] at inside
  rcases inside with rfl | rfl | rfl
  · exact onLine.start
  · exact unbroken
  · exact onLine.stop

theorem OnLines.openTag (onLines : builder.OnLines) {text : TagText} (onLine : text.OnLine) :
    (builder.openTag text).OnLines :=
  (onLines.emitLine .safe onLine.start).push onLine.stop

theorem OnLines.addTurn (onLines : builder.OnLines) {turn : Turn} (onLine : turn.OnLine)
    (added : builder.addTurn turn = .ok next) : next.OnLines := by
  unfold Builder.addTurn at added
  split at added
  next => exact onLines.add onLine.content added
  next text tagged =>
    have known := onLine.tag text tagged
    split at added
    next =>
      cases added
      exact onLines.emitLine .safe (Text.unbroken_append.mpr ⟨known.start, known.stop⟩)
    next kind body said _ =>
      cases added
      have content := onLine.content
      rw [said] at content
      exact onLines.emitLine .expression (unbroken_fused known kind content)
    next => exact (onLines.openTag known).add onLine.content added

theorem OnLines.takeTurn (onLines : builder.OnLines) {turn : Turn} (onLine : turn.OnLine)
    (taken : builder.takeTurn turn = .ok next) : next.OnLines :=
  (onLines.shift turn.indent).addTurn onLine taken

theorem OnLines.takeTurns (onLines : builder.OnLines) {turns : List Turn}
    (onLine : ∀ turn ∈ turns, turn.OnLine) (taken : builder.takeTurns turns = .ok next) :
    next.OnLines := by
  induction turns generalizing builder with
  | nil =>
    cases taken
    exact onLines
  | cons turn rest ih =>
    obtain ⟨first, later⟩ := List.forall_mem_cons.mp onLine
    obtain ⟨middle, one, others⟩ := Outcome.bind_eq_ok.mp taken
    exact ih (onLines.takeTurn first one) later others

end Builder

/-- The body of a program is written line by line. -/
theorem Program.onLines_body {source contextType : Text} {program : Program}
    (compiled : ofSource source contextType = .ok program) :
    ∀ statement ∈ program.body, statement.OnLines := by
  obtain ⟨tokens, lexed, compiled⟩ := Outcome.bind_eq_ok.mp compiled
  obtain ⟨all, last, read, taken, same⟩ := ofTokens_ok compiled
  have onLine := onLine_turns (Lexer.unbroken_lex lexed) read
  have built := (Builder.onLines_initial.takeTurns onLine taken).closeTo 0
  rw [same]
  exact fun statement member => built.body statement (List.mem_reverse.mp member)

end Stencil
