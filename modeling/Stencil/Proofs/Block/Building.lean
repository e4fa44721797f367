import Stencil.Proofs.Builder.Ancestors
import Stencil.Proofs.Builder.Composing
import Stencil.Proofs.Markup.Phrase
import Stencil.Proofs.Static.Building

/-!
A line of code with lines without code below it. The program of both has the statements of the
lines below in the block of the line, and nothing else.
-/

set_option autoImplicit false

namespace Stencil

open Markup

namespace Markup

/-! ### The line of code -/

/-- Code that stands on a line at a margin. -/
structure OneLine (margin code : Text) : Prop where
  indents : ∀ c ∈ margin, Text.isIndent c = true
  inside : ∀ c ∈ code, Text.isBoundary c = false
  snug : Text.Snug code

/-- A first line with the code behind a sign. -/
def codeRow (margin : Text) (mark : Char) (code : Text) : Row :=
  ⟨1, 0, margin ++ mark :: ' ' :: code⟩

variable {margin code : Text} {mark : Char}

theorem codeRow_split (oneLine : OneLine margin code) (sign : mark = '=' ∨ mark = '-') :
    (codeRow margin mark code).depth = margin.length ∧
      (codeRow margin mark code).content = mark :: ' ' :: code := by
  have other : Text.isIndent mark = false := by rcases sign with rfl | rfl <;> decide
  have taken : (mark :: ' ' :: code).takeWhile Text.isIndent = [] := by simp [other]
  have left : (mark :: ' ' :: code).dropWhile Text.isIndent = mark :: ' ' :: code := by simp [other]
  constructor
  · simp [codeRow, Row.depth, List.takeWhile_append_of_pos oneLine.indents, taken]
  · simp [codeRow, Row.content, List.dropWhile_append_of_pos oneLine.indents, left]

theorem rows_code (oneLine : OneLine margin code) (sign : mark = '=' ∨ mark = '-') (body : Text) :
    ∃ characters, rows (margin ++ mark :: ' ' :: code ++ '\n' :: body) =
      codeRow margin mark code :: (rows body).map (Row.moved 1 characters) := by
  have spoken : Text.isBlank mark = false ∧ Text.isBoundary mark = false := by
    rcases sign with rfl | rfl <;> decide
  have inside : ∀ c ∈ margin ++ mark :: ' ' :: code, Text.isBoundary c = false := by
    refine List.forall_mem_append.mpr ⟨fun c member => ?_, List.forall_mem_cons.mpr
      ⟨spoken.2, List.forall_mem_cons.mpr ⟨by decide, oneLine.inside⟩⟩⟩
    have indent := oneLine.indents c member
    simp only [Text.isIndent, Bool.or_eq_true, beq_iff_eq] at indent
    rcases indent with rfl | rfl <;> decide
  have visible : Text.allBlank (Lexer.content ⟨margin ++ mark :: ' ' :: code, ['\n']⟩) = false := by
    have whole : Lexer.content ⟨margin ++ mark :: ' ' :: code, ['\n']⟩ =
        margin ++ mark :: ' ' :: code := rfl
    simp [whole, Text.allBlank, spoken.1]
  refine ⟨(margin ++ mark :: ' ' :: code).length + 1, ?_⟩
  rw [rows, rows, Text.lines_feed inside, rowsFrom, visible, ← rowsFrom_moved]
  simp [codeRow, Text.Line.whole, Lexer.content, Nat.add_assoc]

theorem reads_code (oneLine : OneLine margin code) (sign : mark = '=' ∨ mark = '-') :
    ∃ line, Reads true (codeRow margin mark code) line ∧
      line.tokens.getLast?.map Token.content = some code := by
  have split := codeRow_split oneLine sign
  obtain ⟨identifier, constructed⟩ : ∃ identifier,
      Lexer.construct (codeRow margin mark code).cursor =
        .ok (Lexer.signAndRest identifier .expression ⟨margin.length, mark :: ' ' :: code⟩) := by
    rw [Row.cursor_eq, split.1, split.2]
    rcases sign with rfl | rfl
    · exact ⟨.codeIdentifier, rfl⟩
    · exact ⟨.silentCodeIdentifier, rfl⟩
  obtain ⟨first, last, found⟩ : ∃ first last, Lexer.signAndRest identifier .expression
      ⟨margin.length, mark :: ' ' :: code⟩ = [first, last] := ⟨_, _, rfl⟩
  have said := Lexer.signAndRest_snug oneLine.snug mark margin.length identifier .expression
  have content : last.content = code := by
    simp only [found, List.map_cons, List.map_nil, Lexer.Piece.said, List.cons.injEq,
      Prod.mk.injEq, and_true] at said
    exact said.2.2
  have pieces : Lexer.pieces (codeRow margin mark code).text =
      .ok [(codeRow margin mark code).margin, first, last] := by
    rw [Row.pieces_text, constructed, found]
    rfl
  generalize codeRow margin mark code = row at pieces ⊢
  have placed : Lexer.place row.number row.offset true row.text =
      .ok ((Lexer.shown true [row.margin, first, last]).map
        fun piece => piece.at row.number row.offset) := by
    rw [Lexer.place, pieces]
  obtain ⟨line, tokens, reads⟩ := place_tokens placed
  refine ⟨line, reads, ?_⟩
  rw [tokens, Lexer.shown]
  split <;> simp [Lexer.Piece.at, content]

theorem untagged_code (oneLine : OneLine margin code) (sign : mark = '=' ∨ mark = '-') {line : Line}
    (shows : (codeRow margin mark code).Shows line.form) :
    ∃ matter, line.form = .entry none matter ∧ matter.isCode = true ∧
      matter.silent? = (codeRow margin mark code).silent? := by
  have content := (codeRow_split oneLine sign).2
  obtain ⟨docType, silent, tagged, mayOpen, _⟩ := shows
  cases form : line.form with
  | docType sign type =>
    rw [form] at docType
    have starts := docType.1
    rcases sign with rfl | rfl <;> simp [Row.isDocType, content] at starts
  | entry head matter =>
    rw [form] at silent tagged mayOpen
    cases head with
    | some head => rcases sign with rfl | rfl <;> simp [Form.isTagged, Row.isTagged, content] at tagged
    | none =>
      refine ⟨matter, rfl, ?_, silent⟩
      rcases sign with rfl | rfl <;>
        simpa [Form.mayOpen, Row.mayOpen, Row.isTagged, content] using mayOpen

/-- With lines below it silent code is the header of a block. -/
theorem reads_silent (oneLine : OneLine margin code) :
    ∃ line matter, Reads true (codeRow margin '-' code) line ∧ line.form = .entry none matter ∧
      matter.content true = .block (Builder.headerOf code) := by
  have sign : '-' = '=' ∨ '-' = '-' := .inr rfl
  obtain ⟨line, reads, _⟩ := reads_code oneLine sign
  obtain ⟨matter, form, _, silent⟩ := untagged_code oneLine sign reads.shows
  have blank : (' ' :: code).dropWhile Text.isIndent = code := by
    rw [List.dropWhile_cons_of_pos (by decide)]
    cases code with
    | nil => rfl
    | cons c rest => exact List.dropWhile_cons_of_neg (by simp [oneLine.snug.begins c rfl])
  have code : (codeRow margin '-' code).silent? = some code := by
    simp [Row.silent?, (codeRow_split oneLine sign).2, blank,
      oneLine.snug.ends]
  rw [code] at silent
  refine ⟨line, matter, reads, form, ?_⟩
  cases matter with
  | silent sign statement =>
    cases silent
    rfl
  | _ => cases silent

/-- With lines below it other code is called with them. -/
theorem reads_called (oneLine : OneLine margin code) :
    ∃ line matter, Reads true (codeRow margin '=' code) line ∧ line.form = .entry none matter ∧
      matter.content true = .call code := by
  have sign : '=' = '=' ∨ '=' = '-' := .inl rfl
  obtain ⟨line, reads, last⟩ := reads_code oneLine sign
  obtain ⟨matter, form, isCode, silent⟩ := untagged_code oneLine sign reads.shows
  have loud : (codeRow margin '=' code).silent? = none := by
    simp [Row.silent?, (codeRow_split oneLine sign).2]
  rw [loud] at silent
  refine ⟨line, matter, reads, form, ?_⟩
  cases matter with
  | code sign expression =>
    have content : expression.val.content = code := by
      simpa [Line.tokens, form, Form.tokens, Matter.tokens, List.getLast?_append] using last
    simp [Matter.content, content]
  | silent sign statement => cases silent
  | absent | text | comment => cases isCode

end Markup

namespace Builder

variable {line : Markup.Line} {lines : List Markup.Line} {builder : Builder}

/-! ### The lines below -/

/-- Lines with no code in them, none of which is a document type. -/
structure Static (lines : List Markup.Line) : Prop where
  plain : ∀ token ∈ lines.flatMap Markup.Line.tokens, Plain token
  entries : ∀ line ∈ lines, ∃ head matter, line.form = .entry head matter

theorem writeLine_static (builder : Builder) (deeper : Bool)
    (plain : ∀ token ∈ line.tokens, Plain token)
    (entry : ∃ head matter, line.form = .entry head matter) :
    ∃ next, builder.writeLine deeper line = .ok next := by
  obtain ⟨head, matter, form⟩ := entry
  have inside : ∀ token ∈ matter.tokens, Plain token := fun token member =>
    plain token (by simp [Markup.Line.tokens, form, Form.tokens, member])
  have added (builder : Builder) : ∃ next, builder.add (matter.content deeper) = .ok next := by
    rw [content_static inside]
    cases matter.piece? <;> exact ⟨_, rfl⟩
  simp only [writeLine, form, write]
  cases head with
  | none => exact added _
  | some head =>
    simp only
    split
    next => exact ⟨_, rfl⟩
    next => exact ⟨_, rfl⟩
    next => exact added _

theorem runLines_static (static : Static lines) (builder : Builder) :
    ∃ last, builder.runLines lines = .ok last := by
  induction lines generalizing builder with
  | nil => exact ⟨builder, rfl⟩
  | cons line rest ih =>
    obtain ⟨plain, entries⟩ := static
    rw [List.flatMap_cons] at plain
    obtain ⟨here, later⟩ := List.forall_mem_append.mp plain
    obtain ⟨next, written⟩ := writeLine_static builder (line.opens rest) here
      (entries line (List.mem_cons_self ..))
    obtain ⟨last, ran⟩ := ih ⟨later, fun other member => entries other (List.mem_cons_of_mem _ member)⟩
      next
    refine ⟨last, ?_⟩
    rw [runLines, written]
    exact ran

/-- Lines below a line whose code has been opened and in which nothing stands yet. -/
theorem runLines_below (static : Static lines) (indented : Indented lines) (empty : builder.body = [])
    {depth : Nat} (opened : ∀ top ∈ builder.pending, top.depth = depth)
    (deep : ∀ line ∈ lines, depth < line.depth) :
    ∃ last closed, builder.runLines lines = .ok last ∧
      last.closeTo 0 = closeStack 0 builder.pending closed ∧ closed.names = builder.names ∧
      Puts closed.body.reverse (document [] lines) := by
  obtain ⟨last, ran⟩ := runLines_static static builder
  have rises : Rises builder.pending := List.pairwise_of_forall_mem_list fun one first other second =>
    Nat.le_of_eq ((opened other second).trans (opened one first).symm)
  have builds : Builds builder.pending builder.names builder [] [] :=
    ⟨by rw [empty]; exact .nil, .base, rises, rfl⟩
  obtain ⟨closed, done, names, puts⟩ := builds.runLines
    (fun line first => starts_of_indented builder (indented line (List.mem_of_mem_head? first)))
    (fun line member => indented line (List.mem_of_mem_tail member))
    (fun line member top inside => opened top inside ▸ deep line member) static.plain ran
  exact ⟨last, closed, ran, done, names, puts⟩

/-! ### The line above -/

/-- At most an indentation is on the stack where the first line starts. -/
theorem enter_initial (line : Markup.Line) :
    ∃ roots, initial.enter line = ⟨[], initial.names, roots, 0⟩ ∧
      ∀ root ∈ roots, root = .indent line.depth := by
  cases same : line.indent with
  | none => exact ⟨[], by rw [enter, same]; rfl, List.forall_mem_nil _⟩
  | some token =>
    refine ⟨[.indent line.depth], ?_, by simp⟩
    rw [enter, same, Markup.Line.depth, same]
    rfl

theorem closeStack_roots {roots : List Pending} {depth : Nat}
    (margin : ∀ root ∈ roots, root = .indent depth) (builder : Builder) :
    closeStack 0 roots builder = { builder with pending := [] } := by
  induction roots generalizing builder with
  | nil => rfl
  | cons root rest ih =>
    obtain ⟨rfl, below⟩ := List.forall_mem_cons.mp margin
    rw [closeStack, if_pos (Nat.zero_le _)]
    exact ih below _

theorem runLines_moved (count characters : Nat) {last : Builder}
    (ran : builder.runLines lines = .ok last) :
    builder.runLines (lines.map (Markup.Line.moved count characters)) = .ok last := by
  rw [runLines_eq_ok, turnsOf_moved]
  exact runLines_eq_ok.mp ran

end Builder

/-! ### Programs -/

/-- A source without code all of whose lines are deeper than a depth. -/
structure Below (depth : Nat) (body : Text) (lines : List Markup.Line) : Prop where
  reads : ReadsAll true (rows body) lines
  present : rows body ≠ []
  deep : ∀ row ∈ rows body, depth < row.depth
  static : Builder.Static lines

namespace Program

open Builder

variable {margin code body : Text} {lines : List Markup.Line}

/-- The program of a line of code and of what is below it. -/
theorem ofTokens_below (oneLine : OneLine margin code) {mark : Char} (sign : mark = '=' ∨ mark = '-')
    (below : Below margin.length body lines) {line : Markup.Line} {matter : Matter}
    (reads : Markup.Reads true (codeRow margin mark code) line)
    (form : line.form = .entry none matter) {builder : Builder}
    (written : initial.writeLine true line = .ok builder) (empty : builder.body = [])
    (opened : ∀ top ∈ builder.pending, top.depth = margin.length) (contextType : Text) :
    ∃ tokens closed, Lexer.lex (margin ++ mark :: ' ' :: code ++ '\n' :: body) = .ok tokens ∧
      ofTokens tokens contextType =
        .ok ⟨contextType, (closeStack 0 builder.pending closed).body.reverse⟩ ∧
      closed.names = builder.names ∧ Puts closed.body.reverse (document [] lines) := by
  obtain ⟨characters, split⟩ := rows_code oneLine sign body
  have depth : line.depth = margin.length := reads.depth.trans (codeRow_split oneLine sign).1
  have behind : ReadsAll false (rows body) lines := below.reads.behind fun row first =>
    Nat.lt_of_le_of_lt (Nat.zero_le _) (below.deep row (List.mem_of_mem_head? first))
  have deep : ∀ other ∈ lines, margin.length < other.depth := by
    have all : ∀ depth ∈ lines.map Markup.Line.depth, margin.length < depth := by
      rw [behind.depths]
      exact List.forall_mem_map.mpr below.deep
    exact List.forall_mem_map.mp all
  obtain ⟨last, closed, ran, done, names, puts⟩ :=
    runLines_below below.static (indented_of_readsAll behind) empty opened deep
  have all : ReadsAll true (rows (margin ++ mark :: ' ' :: code ++ '\n' :: body))
      (line :: lines.map (Markup.Line.moved 1 characters)) := by
    rw [split]
    exact .cons reads behind.moved
  refine ⟨_, closed, by rw [lex_eq, lex_readsAll all], ?_, names, puts⟩
  have opens : line.opens (lines.map (Markup.Line.moved 1 characters)) = true := by
    obtain ⟨first, others, rfl⟩ := List.exists_cons_of_ne_nil (behind.filled below.present)
    simp [Markup.Line.opens, depth, deep first (List.mem_cons_self ..)]
  rw [ofTokens_lines all, ofLines, opening_runs (.inr ⟨none, matter, form⟩)]
  simp only [Outcome.ok_bind, runLines, opens, written, runLines_moved 1 characters ran, done]
  rfl

/-- Silent code has what is below it for its block. -/
theorem ofTokens_block (oneLine : OneLine margin code) (below : Below margin.length body lines)
    {names : List Text} (assigned : Script.assignedNames (headerOf code) = .ok names)
    (contextType : Text) :
    ∃ tokens statements, Lexer.lex (margin ++ '-' :: ' ' :: code ++ '\n' :: body) = .ok tokens ∧
      ofTokens tokens contextType = .ok ⟨contextType, [.block (headerOf code) statements]⟩ ∧
      Puts statements (document [] lines) := by
  obtain ⟨line, matter, reads, form, content⟩ := reads_silent oneLine
  obtain ⟨roots, entered, margins⟩ := enter_initial line
  have depth : line.depth = margin.length :=
    reads.depth.trans (codeRow_split oneLine (.inr rfl)).1
  have level : (initial.enter line).depth = margin.length :=
    (depth_enter (fits_initial reads)).trans depth
  rw [entered] at level
  have written : initial.writeLine true line = .ok ⟨[], initial.names ++ names,
      .block margin.length (headerOf code) [] :: roots, 0⟩ := by
    simp only [writeLine, form, write, content, entered, add, Builder.bind, assigned,
      Outcome.ok_bind]
    exact congrArg (fun depth => Except.ok (Builder.mk [] (initial.names ++ names)
      (.block depth (headerOf code) [] :: roots) 0)) level
  obtain ⟨tokens, closed, lexed, built, _, puts⟩ := ofTokens_below oneLine (.inr rfl) below
    reads form written rfl
    (List.forall_mem_cons.mpr ⟨rfl, fun root member => margins root member ▸ depth⟩) contextType
  refine ⟨tokens, closed.body.reverse, lexed, ?_, puts⟩
  rw [built, closeStack, if_pos (Nat.zero_le _), closeStack_roots margins]
  rfl

/-- Other code is called with a function of what is below it. -/
theorem ofTokens_called (oneLine : OneLine margin code) (below : Below margin.length body lines)
    (contextType : Text) :
    ∃ tokens statements, Lexer.lex (margin ++ '=' :: ' ' :: code ++ '\n' :: body) = .ok tokens ∧
      ofTokens tokens contextType = .ok ⟨contextType,
        [.function 0 [] statements, .control (callStatement margin.length code 0)]⟩ ∧
      Puts statements (document [] lines) := by
  obtain ⟨line, matter, reads, form, content⟩ := reads_called oneLine
  obtain ⟨roots, entered, margins⟩ := enter_initial line
  have depth : line.depth = margin.length :=
    reads.depth.trans (codeRow_split oneLine (.inl rfl)).1
  have level : (initial.enter line).depth = margin.length :=
    (depth_enter (fits_initial reads)).trans depth
  rw [entered] at level
  have written : initial.writeLine true line = .ok ⟨[], [],
      .call margin.length code 0 initial.names [] :: roots, 1⟩ := by
    simp only [writeLine, form, write, content, entered, add, level]
  obtain ⟨tokens, closed, lexed, built, names, puts⟩ := ofTokens_below oneLine (.inl rfl) below
    reads form written rfl
    (List.forall_mem_cons.mpr ⟨rfl, fun root member => margins root member ▸ depth⟩) contextType
  refine ⟨tokens, closed.body.reverse, lexed, ?_, puts⟩
  -- the block binds no names, so it shares none
  have none (outer : List Text) : sharedNames [] outer = [] := by
    rw [sharedNames, List.filter_nil, Text.sortUnique, List.mergeSort_nil]
    rfl
  rw [built, closeStack, if_pos (Nat.zero_le _), closeStack_roots margins, closeTop, names, none]
  rfl

end Program

end Stencil
