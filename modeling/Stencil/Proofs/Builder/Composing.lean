import Stencil.Proofs.Builder.Behind
import Stencil.Proofs.Builder.Program
import Stencil.Proofs.Markup.Joined

/-!
Sources one behind the other. Where the second begins at the margin, its program comes behind that
of the first.
-/

set_option autoImplicit false

namespace Stencil

namespace Markup

/-- The rows of a source behind one that ends with a line. -/
theorem rows_append {first : Text} (ended : first.getLast? = some '\n') (second : Text) :
    ∃ count characters,
      rows (first ++ second) = rows first ++ (rows second).map (Row.moved count characters) :=
  ⟨_, _, rows_joined ended second⟩

/-- An unindented first line has an indentation that is empty where it is not the first. -/
theorem Reads.later {row : Row} {line : Line} (reads : Reads true row line)
    (flush : row.depth = 0) :
    ∃ indent : TokenOf [.whiteSpace], Reads false row ⟨some indent, line.form⟩ := by
  have bare : line.indent = none := by
    have indented := reads.indented
    simpa [flush] using indented
  have tokens : line.tokens = line.form.tokens := by simp [Line.tokens, bare]
  have empty : row.margin.content = [] := by
    rw [← List.length_eq_zero_iff, row.length_margin, flush]
  have placed := reads.placed
  have margin : (row.margin.at row.number row.offset).kind ∈ [TokenKind.whiteSpace] :=
    List.mem_singleton.mpr rfl
  refine ⟨⟨row.margin.at row.number row.offset, margin⟩, ?_, ?_, rfl, reads.shows⟩
  · rw [Lexer.place, Row.pieces_text] at placed ⊢
    cases built : Lexer.construct row.cursor with
    | error fault =>
      rw [built] at placed
      cases placed
    | ok found =>
      rw [built] at placed
      simp only [Outcome.ok_bind, pure, Except.pure, Lexer.shown, empty, and_self, if_true, tokens]
        at placed ⊢
      simp [Line.tokens, ← Except.ok.inj placed]
  · rw [← row.length_margin]
    rfl

theorem ReadsAll.append {first : Bool} {rows others : List Row} {lines more : List Line}
    (reads : ReadsAll first rows lines) (behind : ReadsAll false others more)
    (present : rows ≠ [] ∨ first = false) : ReadsAll first (rows ++ others) (lines ++ more) := by
  induction reads with
  | nil first =>
    cases present.resolve_left fun absent => absent rfl
    exact behind
  | cons one _ ih => exact .cons one (ih (.inr rfl))

theorem ReadsAll.filled {first : Bool} {rows : List Row} {lines : List Line}
    (reads : ReadsAll first rows lines) (present : rows ≠ []) : lines ≠ [] := by
  cases reads with
  | nil => exact absurd rfl present
  | cons => exact List.cons_ne_nil _ _

theorem lex_readsAll {first : Bool} {rows : List Row} {lines : List Line}
    (reads : ReadsAll first rows lines) : lexRows first rows = .ok (lines.flatMap Line.tokens) := by
  induction reads with
  | nil => rfl
  | cons one _ ih =>
    rw [lexRows, one.placed, ih]
    rfl

/-! ### Turns -/

/-- The turn that a line is, with or without deeper lines below it. -/
def Line.turn? (line : Line) (deeper : Bool) : Option Builder.Turn :=
  match line.form with
  | .docType _ _ => none
  | .entry head matter =>
    some ⟨line.indent.map (·.val.content.length), head.map Head.text, matter.content deeper,
      !deeper⟩

def turnsOf : List Line → Option (List Builder.Turn)
  | [] => some []
  | line :: rest => do
    let turn ← line.turn? (line.opens rest)
    let others ← turnsOf rest
    return turn :: others

/-- The turns, where an indentation stands at the margin before the first of them. -/
def atMargin : List Builder.Turn → List Builder.Turn
  | [] => []
  | first :: others => { first with indent := some 0 } :: others

theorem Head.text_moved (count characters : Nat) (head : Head) :
    (head.moved count characters).text = head.text := by
  have fixed {sign : TokenKind} (name : Text) (signed : Option (Signed sign)) :
      fixedText name (signed.map (Signed.moved count characters)) = fixedText name signed := by
    cases signed <;> rfl
  have others : (head.attributes.map (Attribute.moved count characters)).map Attribute.text =
      head.attributes.map Attribute.text := by
    rw [List.map_map]
    rfl
  rw [Head.text, Head.text]
  congr 1
  · obtain ⟨element, _, _, _, _⟩ := head
    cases element <;> rfl
  · simp only [Head.moved, fixed, others]

theorem Line.turn?_moved (count characters : Nat) (line : Line) (deeper : Bool) :
    (line.moved count characters).turn? deeper = line.turn? deeper := by
  obtain ⟨indent, form⟩ := line
  cases form with
  | docType => rfl
  | entry head matter =>
    have text : (head.map (Head.moved count characters)).map Head.text = head.map Head.text := by
      rw [Option.map_map]
      congr 1
      funext head
      exact head.text_moved count characters
    have content : (matter.moved count characters).content deeper = matter.content deeper := by
      cases matter <;> rfl
    simp only [Line.turn?, Line.moved, Form.moved, text, content]
    cases indent <;> rfl

theorem Line.opens_moved (count characters : Nat) (line : Line) (rest : List Line) :
    (line.moved count characters).opens (rest.map (Line.moved count characters)) =
      line.opens rest := by
  cases rest <;> simp [Line.opens]

theorem turnsOf_moved (count characters : Nat) (lines : List Line) :
    turnsOf (lines.map (Line.moved count characters)) = turnsOf lines := by
  induction lines with
  | nil => rfl
  | cons line rest ih =>
    rw [List.map_cons, turnsOf, turnsOf, Line.turn?_moved, Line.opens_moved, ih]

/-- The first line is the same turn with an indentation at the margin. -/
theorem turnsOf_margin {line : Line} (bare : line.indent = none) {indent : TokenOf [.whiteSpace]}
    (empty : indent.val.content.length = 0) {rest : List Line} {turns : List Builder.Turn}
    (read : turnsOf (line :: rest) = some turns) :
    (∀ turn ∈ turns.head?, turn.indent = none) ∧
      turnsOf (⟨some indent, line.form⟩ :: rest) = some (atMargin turns) := by
  have depth : Line.depth ⟨some indent, line.form⟩ = line.depth := by
    rw [Line.depth, Line.depth, bare]
    exact empty
  have opens : Line.opens ⟨some indent, line.form⟩ rest = line.opens rest := by
    cases rest with
    | nil => rfl
    | cons next others => rw [Line.opens, Line.opens, depth]
  rw [turnsOf, opens]
  rw [turnsOf] at read
  obtain ⟨first, one, read⟩ := Option.bind_eq_some_iff.mp read
  obtain ⟨others, more, read⟩ := Option.bind_eq_some_iff.mp read
  cases read
  unfold Line.turn? at one ⊢
  split at one
  next => cases one
  next head matter form =>
    cases one
    refine ⟨by simp [bare], ?_⟩
    simp [form, more, empty, atMargin]

end Markup

namespace Builder

open Markup (turnsOf atMargin)

theorem write_eq (builder : Builder) (deeper : Bool) (head : Option Markup.Head)
    (matter : Markup.Matter) (indent : Option Nat) :
    builder.write deeper head matter =
      builder.addTurn ⟨indent, head.map Markup.Head.text, matter.content deeper, !deeper⟩ := by
  unfold write addTurn
  generalize matter.content deeper = content
  cases head with
  | none => rfl
  | some head => cases content <;> cases deeper <;> rfl

theorem writeLine_eq_ok {builder next : Builder} {deeper : Bool} {line : Markup.Line} :
    builder.writeLine deeper line = .ok next ↔
      ∃ turn, line.turn? deeper = some turn ∧ builder.takeTurn turn = .ok next := by
  obtain ⟨indent, form⟩ := line
  cases form with
  | docType => simp [writeLine, Markup.Line.turn?]
  | entry head matter =>
    have entered : builder.enter ⟨indent, .entry head matter⟩ =
        builder.shift (indent.map (·.val.content.length)) := by
      cases indent <;> rfl
    simp only [writeLine, Markup.Line.turn?, entered, Option.some.injEq, exists_eq_left', takeTurn,
      write_eq _ _ _ _ (indent.map (·.val.content.length))]

/-- A run over lines is one over their turns. -/
theorem runLines_eq_ok {builder last : Builder} {lines : List Markup.Line} :
    builder.runLines lines = .ok last ↔
      ∃ turns, turnsOf lines = some turns ∧ builder.takeTurns turns = .ok last := by
  induction lines generalizing builder with
  | nil => simp [runLines, turnsOf, takeTurns]
  | cons line rest ih =>
    rw [runLines, Outcome.bind_eq_ok]
    constructor
    · rintro ⟨next, written, ran⟩
      obtain ⟨turn, one, taken⟩ := writeLine_eq_ok.mp written
      obtain ⟨others, more, later⟩ := ih.mp ran
      refine ⟨turn :: others, by simp [turnsOf, one, more], ?_⟩
      rw [takeTurns, taken]
      exact later
    · rintro ⟨turns, read, taken⟩
      obtain ⟨turn, one, read⟩ := Option.bind_eq_some_iff.mp read
      obtain ⟨others, more, read⟩ := Option.bind_eq_some_iff.mp read
      cases read
      obtain ⟨next, first, later⟩ := Outcome.bind_eq_ok.mp taken
      exact ⟨next, writeLine_eq_ok.mpr ⟨turn, one, first⟩, ih.mpr ⟨others, more, later⟩⟩

theorem opening_append {lines others : List Markup.Line} {builder : Builder} (present : lines ≠ [])
    (opened : opening lines = .ok (builder, others)) (more : List Markup.Line) :
    opening (lines ++ more) = .ok (builder, others ++ more) := by
  obtain ⟨line, rest, rfl⟩ := List.exists_cons_of_ne_nil present
  rw [List.cons_append]
  rcases runs_or_docType line with runs | ⟨sign, type, rfl⟩
  · rw [opening_runs runs] at opened ⊢
    cases opened
    rfl
  · simp only [opening] at opened ⊢
    split at opened
    next =>
      cases opened
      rfl
    next => cases opened

/-! ### Programs -/

open Statement (recordedOf functionCountOf)

/-- A program begins behind what has been built where nothing is left open. -/
theorem beside_begun {earlier : List Statement} {closed : Builder} (empty : closed.pending = [])
    (body : closed.body = earlier.reverse)
    (names : closed.names = initial.names ++ recordedOf false earlier) :
    Beside closed.calls earlier initial closed := by
  refine ⟨(Nat.zero_add _).symm, ?_⟩
  have layers : Layers closed.calls earlier 0 [] (initial.names ++ recordedOf false []) []
      ([].reverse ++ earlier.reverse)
      (initial.names ++ recordedOf false earlier ++ recordedOf false []) [] :=
    .floor .nil (List.forall_mem_nil _)
  rw [empty, body, names]
  simp only [Statement.recordedOf, List.append_nil, List.reverse_nil, List.nil_append] at layers
  exact layers

theorem beside_initial : Beside 0 [] initial initial := @beside_begun [] initial rfl rfl rfl

theorem beside_opening {lines others : List Markup.Line} {builder : Builder}
    (opened : opening lines = .ok (builder, others)) : Beside 0 [] builder builder := by
  unfold opening at opened
  split at opened
  next =>
    split at opened
    next =>
      cases opened
      exact beside_initial.emitLine _ _
    next => cases opened
  next =>
    cases opened
    exact beside_initial

/-- A program begins behind one that is done. -/
theorem beside_closed {last : Builder} (beside : Beside 0 [] last last) :
    Beside (functionCountOf (last.closeTo 0).body.reverse) (last.closeTo 0).body.reverse initial
      (last.closeTo 0) := by
  have empty := pending_closeTo_zero last
  obtain ⟨_, _, _, names, calls⟩ := (beside.closeTo 0).floor empty
  rw [← calls]
  exact beside_begun empty (List.reverse_reverse _).symm names

/-- An indentation at the margin closes what the turns before it have left open, and so does the
end. -/
theorem takeTurns_margin {last done : Builder} (beside : Beside 0 [] last last) {turns : List Turn}
    (bare : ∀ turn ∈ turns.head?, turn.indent = none) (taken : initial.takeTurns turns = .ok done) :
    ∃ after, last.takeTurns (atMargin turns) = .ok after ∧
      Beside (functionCountOf (last.closeTo 0).body.reverse) (last.closeTo 0).body.reverse
        (done.closeTo 0) (after.closeTo 0) := by
  have begun := beside_closed beside
  cases turns with
  | nil =>
    cases taken
    have closed := begun.closeTo 0
    rw [closeTo_closeTo (Nat.le_refl 0)] at closed
    exact ⟨last, rfl, closed⟩
  | cons first others =>
    obtain ⟨next, one, taken⟩ := Outcome.bind_eq_ok.mp taken
    rw [takeTurn, bare first rfl] at one
    obtain ⟨mid, also, kept⟩ := (begun.push_root rfl).addTurn one
    obtain ⟨after, later, all⟩ := kept.takeTurns taken
    refine ⟨after, ?_, all.closeTo 0⟩
    have shifted : last.takeTurn { first with indent := some 0 } = .ok mid := also
    rw [atMargin, takeTurns, shifted]
    exact later

end Builder

namespace Program

open Builder Markup

/-- The builder that the lines of a program leave. -/
theorem ofLines_ok {lines : List Markup.Line} {contextType : Text} {program : Program}
    (built : ofLines lines contextType = .ok program) :
    ∃ builder others turns last, Builder.opening lines = .ok (builder, others) ∧
      turnsOf others = some turns ∧ builder.takeTurns turns = .ok last ∧
      program = ⟨contextType, (last.closeTo 0).body.reverse⟩ := by
  obtain ⟨⟨builder, others⟩, opened, built⟩ := Outcome.bind_eq_ok.mp built
  obtain ⟨last, ran, built⟩ := Outcome.bind_eq_ok.mp built
  cases built
  obtain ⟨turns, read, taken⟩ := runLines_eq_ok.mp ran
  exact ⟨builder, others, turns, last, opened, read, taken, rfl⟩

/-- The lines of a source that begins at the margin, where they stand behind others. -/
theorem later_lines {rows : List Row} {lines : List Markup.Line} (reads : ReadsAll true rows lines)
    (margin : ∀ row ∈ rows.head?, row.depth = 0 ∧ row.isDocType = false)
    (count characters : Nat) :
    ∃ later, ReadsAll false (rows.map (Row.moved count characters)) later ∧
      Builder.opening lines = .ok (initial, lines) ∧
      (∀ line ∈ later.head?, line.depth = 0) ∧
      ∀ turns, turnsOf lines = some turns →
        (∀ turn ∈ turns.head?, turn.indent = none) ∧ turnsOf later = some (atMargin turns) := by
  cases reads with
  | nil =>
    refine ⟨[], .nil false, rfl, by simp, fun turns read => ?_⟩
    cases read
    exact ⟨by simp, rfl⟩
  | @cons _ row line rows lines one others =>
    obtain ⟨flush, plain⟩ := margin row rfl
    obtain ⟨indent, here⟩ := one.later flush
    have length : indent.val.content.length = 0 := by rw [← flush, ← here.depth]; rfl
    have bare : line.indent = none := by simpa [flush] using one.indented
    refine ⟨(Line.mk (some indent) line.form :: lines).map (Line.moved count characters),
      .cons here.moved others.moved, ?_, ?_, ?_⟩
    · rcases runs_or_docType line with runs | ⟨sign, type, rfl⟩
      · exact opening_runs runs
      · have shown := one.shows.docType
        rw [plain] at shown
        cases shown.1
    · rintro line ⟨⟩
      rw [Line.depth_moved, here.depth, flush]
    · intro turns read
      rw [turnsOf_moved]
      exact turnsOf_margin bare length read

/-- One source behind another: the program of both has what the first one has, and behind it what
the second has. There the functions are numbered on, and they share the names as well that they
record themselves and that the first one records outside its functions. -/
theorem composes {first second contextType : Text} {program next : Program}
    (compiled : ofSource first contextType = .ok program)
    (compiles : ofSource second contextType = .ok next) (present : rows first ≠ [])
    (ended : first.getLast? = some '\n')
    (margin : ∀ row ∈ (rows second).head?, row.depth = 0 ∧ row.isDocType = false) :
    ∃ later, ofSource (first ++ second) contextType = .ok ⟨contextType, program.body ++ later⟩ ∧
      Behind (Statement.functionCountOf program.body) (Statement.recordedOf false program.body)
        next.body later := by
  obtain ⟨lines, _, reads, built⟩ := ofSource_ok compiled
  obtain ⟨others, _, reads_later, builds⟩ := ofSource_ok compiles
  obtain ⟨builder, rest, turns, last, opened, read, taken, rfl⟩ := ofLines_ok built
  obtain ⟨_, _, more, done, begun, read_later, takes, rfl⟩ := ofLines_ok builds
  obtain ⟨count, characters, both⟩ := rows_append ended second
  obtain ⟨later, reads_behind, opens, flush, same⟩ :=
    later_lines reads_later margin count characters
  rw [opens] at begun
  cases begun
  obtain ⟨bare, again⟩ := same more read_later
  obtain ⟨after, found, beside⟩ :
      ∃ after, last.takeTurns (atMargin more) = .ok after ∧ Beside _ _ (done.closeTo 0) _ := by
    obtain ⟨_, self, beside⟩ := (beside_opening opened).takeTurns taken
    rw [taken] at self
    cases self
    exact takeTurns_margin beside bare takes
  have filled : lines ≠ [] := reads.filled present
  have ran : builder.runLines (rest ++ later) = .ok after := by
    have calm : ∀ line ∈ rest, ∀ next ∈ later.head?, next.depth ≤ line.depth :=
      fun line _ next head => (flush next head).symm ▸ Nat.zero_le line.depth
    rw [runLines_append builder calm, runLines_eq_ok.mpr ⟨turns, read, taken⟩]
    exact runLines_eq_ok.mpr ⟨_, again, found⟩
  -- both sources are lexed as one
  have all := reads.append reads_behind (.inl present)
  rw [← both] at all
  have lexed : Lexer.lex (first ++ second) = .ok ((lines ++ later).flatMap Markup.Line.tokens) := by
    rw [lex_eq, lex_readsAll all]
  obtain ⟨found, body, behind, _⟩ := beside.floor (pending_closeTo_zero done)
  refine ⟨found, ?_, behind⟩
  rw [ofSource, lexed, Outcome.ok_bind, ofTokens_lines all, ofLines,
    opening_append filled opened]
  simp only [Outcome.ok_bind, ran, ← body]
  rfl

/-- A name, a block that is called, and tags that are left open. -/
def openSource : Text := "- x = 1\n= self.wrap\n  - y = 2\n%ul\n  %li\n".toList

/-- A block that is called and binds both names again. -/
def callingSource : Text := "\n= self.wrap\n  - x = 3\n  - y = 4\n%p= x".toList

theorem composes_calls : ∃ program next later,
    ofSource openSource "T".toList = .ok program ∧
    ofSource callingSource "T".toList = .ok next ∧
    ofSource (openSource ++ callingSource) "T".toList =
      .ok ⟨"T".toList, program.body ++ later⟩ ∧
    Behind (Statement.functionCountOf program.body) (Statement.recordedOf false program.body)
      next.body later := by
  have opening : openSource = _ := String.toList_ofList
  have calling : callingSource = _ := String.toList_ofList
  have one : (ofSource openSource "T".toList).toOption.isSome = true := by
    rw [opening]
    decide +kernel
  have other : (ofSource callingSource "T".toList).toOption.isSome = true := by
    rw [calling]
    decide +kernel
  obtain ⟨program, compiled⟩ := Outcome.ok_of_isSome one
  obtain ⟨next, compiles⟩ := Outcome.ok_of_isSome other
  obtain ⟨later, both, behind⟩ := composes compiled compiles (by rw [opening]; decide +kernel)
    (by rw [opening]; decide +kernel) (by rw [calling]; decide +kernel)
  exact ⟨program, next, later, compiled, compiles, both, behind⟩

end Program

end Stencil
