import Stencil.Proofs.Markup.Cut
import Stencil.Proofs.Text.Breaks

/-!
The tokens of a source fill it. Each is the text at its offset, its line and column are those of
the offset, and what no token covers is blank or the backslash before a text.
-/

set_option autoImplicit false

namespace Stencil.Markup

open Lexer

/-! ### Tokens of a line -/

/-- A line of a text keeps what is left of its boundary at the end. -/
theorem content_keeps {line : Text.Line} (boundary : ∀ c ∈ line.ending, Text.isBoundary c = true) :
    ∃ ending, content line = line.body ++ ending ∧ Closes ending := by
  rw [content]
  split
  next => exact ⟨[], (List.append_nil _).symm, by simp [Closes]⟩
  next => exact ⟨line.ending, rfl, boundary⟩

def depth (text : Text) : Nat := (text.takeWhile Text.isIndent).length

abbrev FillsLine (body : Text) (pieces : List Piece) : Prop :=
  Tiles Piece.column Piece.content (Spares (depth body) pieces) 0 body pieces

theorem Spares.of_sublist {column : Nat} {c : Char} {count : Nat} {some_ all : List Piece}
    (spares : Spares count some_ column c) (kept : ∀ piece ∈ some_, piece ∈ all) :
    Spares count all column c := by
  rcases spares with blank | ⟨same, place, piece, member, shown⟩
  · exact .inl blank
  · exact .inr ⟨same, place, piece, kept piece member, shown⟩

/-- With its indentation or, where that is empty, without it. -/
theorem pieces_fill {text body ending : Text} {found : List Piece} (closes : Closes ending)
    (shape : text = body ++ ending) (read : pieces text = .ok found) (first : Bool) :
    FillsLine body (shown first found) := by
  obtain ⟨others, built, read⟩ := Outcome.bind_eq_ok.mp read
  cases read
  let start : Cursor := ⟨0, text⟩
  have kept : ∀ c ∈ ending, Text.isIndent c = false := fun c member => (closes.blank member).2.1
  have indent : text.takeWhile Text.isIndent = body.takeWhile Text.isIndent := by
    rw [shape, takeWhile_append_closing kept]
  have behind : text.dropWhile Text.isIndent = body.dropWhile Text.isIndent ++ ending := by
    have parts : text = text.takeWhile Text.isIndent ++ (body.dropWhile Text.isIndent ++ ending) :=
      have shape : start.rest = body ++ ending := shape
      shape_while kept shape
    exact List.append_cancel_left (List.takeWhile_append_dropWhile.trans parts)
  have skipped : start.skipIndent = ⟨depth body, body.dropWhile Text.isIndent ++ ending⟩ := by
    rw [skipIndent_eq, indent, behind, Nat.zero_add, depth]
  rw [skipped] at built
  obtain ⟨rest, same, fills⟩ := construct_fills closes rfl built
  have rest_eq : rest = body.dropWhile Text.isIndent := (List.append_cancel_right same).symm
  subst rest_eq
  let margin := start.piece .whiteSpace (text.takeWhile Text.isIndent).length
  have word : margin.content = body.takeWhile Text.isIndent := by
    have whole : text = text.takeWhile Text.isIndent ++ text.dropWhile Text.isIndent :=
      List.takeWhile_append_dropWhile.symm
    calc margin.content
      _ = (text.takeWhile Text.isIndent ++ text.dropWhile Text.isIndent).take
          (text.takeWhile Text.isIndent).length := by rw [← whole]; rfl
      _ = body.takeWhile Text.isIndent := by rw [List.take_left, indent]
  rw [shown]
  split
  next bare =>
    -- nothing is left out: the line has no indentation
    have flush : body.takeWhile Text.isIndent = [] := word ▸ bare.2
    have all : body.dropWhile Text.isIndent = body := by
      have parts := List.takeWhile_append_dropWhile (p := Text.isIndent) (l := body)
      rwa [flush, List.nil_append] at parts
    have zero : depth body = 0 := by rw [depth, flush, List.length_nil]
    rw [all, zero] at fills
    rwa [FillsLine, zero]
  next =>
    have wider := fills.widen fun _ _ _ spares =>
      spares.of_sublist fun piece member => List.mem_cons_of_mem margin member
    have indented : Tiles Piece.column Piece.content (Spares (depth body) (margin :: others)) 0
        (margin.content ++ body.dropWhile Text.isIndent) (margin :: others) := by
      refine .item margin ?_
      rwa [word, show margin.column = 0 from rfl, Nat.zero_add]
    rwa [word, List.takeWhile_append_dropWhile] at indented


/-- Where a token of a line stands. -/
structure OnLine (line : Text.Line) (number offset : Nat) (token : Token) : Prop where
  number : token.line = number
  start : 0 < token.column
  inside : token.column ≤ line.body.length + 1
  offset : token.offset + 1 = offset + token.column

/-- What the tokens of a line may leave out. -/
def SparesAt (line : Text.Line) (offset : Nat) (tokens : List Token) (place : Nat) (c : Char) :
    Prop :=
  Text.isBlank c = true ∨ c = '\\' ∧ place = offset + depth line.body ∧
    ∃ token ∈ tokens, token.kind = .text ∧ token.offset = place + 1

theorem place_fills {line : Text.Line} {number offset : Nat} {first : Bool} {tokens : List Token}
    (boundary : ∀ c ∈ line.ending, Text.isBoundary c = true)
    (placed : place number offset first (content line) = .ok tokens) :
    Tiles Token.offset Token.content (SparesAt line offset tokens) offset line.body tokens ∧
      ∀ token ∈ tokens, OnLine line number offset token := by
  obtain ⟨ending, shape, closes⟩ := content_keeps boundary
  unfold place at placed
  split at placed
  next found read =>
    cases placed
    have fills := pieces_fill closes shape read first
    constructor
    next =>
      refine fills.shift (fun _ => rfl) (fun _ => rfl) fun column c spares => ?_
      rcases spares with blank | ⟨same, rfl, piece, member, kind, behind⟩
      · exact .inl blank
      · refine .inr ⟨same, rfl, _, List.mem_map_of_mem member, kind, ?_⟩
        simp only [Piece.at]
        omega
    next =>
      intro token member
      obtain ⟨piece, inside, rfl⟩ := List.mem_map.mp member
      obtain ⟨before, after, same, column⟩ := fills.content_at inside
      have bound := congrArg List.length same
      simp only [List.length_append] at bound
      refine ⟨rfl, Nat.succ_pos _, ?_, rfl⟩
      simp only [Piece.at]
      omega
  next => cases placed

theorem blank_of_boundary {c : Char} (boundary : Text.isBoundary c = true) :
    Text.isBlank c = true := by
  have alone : Closes [c] := List.forall_mem_singleton.mpr boundary
  exact (alone.blank (List.mem_singleton_self c)).1

theorem blank_whole {line : Text.Line} (boundary : ∀ c ∈ line.ending, Text.isBoundary c = true)
    (empty : Text.allBlank (content line) = true) {index : Nat} {c : Char}
    (found : line.whole[index]? = some c) : Text.isBlank c = true := by
  have member := List.mem_of_getElem? found
  rw [Text.Line.whole, List.mem_append] at member
  rcases member with body | ending
  · obtain ⟨kept, shape, _⟩ := content_keeps boundary
    rw [Text.allBlank, List.all_eq_true, shape] at empty
    exact empty c (List.mem_append_left _ body)
  · exact blank_of_boundary (boundary c ending)

/-! ### Tokens of a source -/

/-- The line that a place in a source is on, the lines before it and the column of the place. -/
structure Stands (source : Text) (place : Nat) (earlier : List Text.Line) (line : Text.Line)
    (column : Nat) : Prop where
  cut : ∃ later, Text.lines source = earlier ++ line :: later
  inside : column ≤ line.body.length
  place : place = Text.extent earlier + column

namespace Stands

variable {source : Text} {place column : Nat} {earlier : List Text.Line} {line : Text.Line}

theorem lineNumber_eq (stands : Stands source place earlier line column) :
    Text.lineNumber source place = 1 + earlier.length := by
  obtain ⟨later, cut⟩ := stands.cut
  rw [stands.place, Text.lineNumber_eq cut stands.inside]

theorem lineStart_eq (stands : Stands source place earlier line column) :
    Text.lineStart source place = Text.extent earlier := by
  obtain ⟨later, cut⟩ := stands.cut
  rw [stands.place, Text.lineStart_eq cut stands.inside]

/-- The source has the body of the line behind the lines before it. -/
theorem getElem?_body (stands : Stands source place earlier line column) {index : Nat} {c : Char}
    (found : line.body[index]? = some c) : source[Text.extent earlier + index]? = some c := by
  obtain ⟨later, cut⟩ := stands.cut
  have bound : index < line.body.length := (List.getElem?_eq_some_iff.mp found).1
  have whole := Text.flatten_lines source
  rw [cut, List.map_append, List.map_cons, List.flatten_append, List.flatten_cons, Text.Line.whole,
    List.append_assoc] at whole
  rw [← whole, Text.extent, List.getElem?_append_right (Nat.le_add_right ..), Nat.add_sub_cancel_left,
    List.getElem?_append_left bound, found]

end Stands

/-- The backslash that a line begins with, and the text that comes after it. -/
structure Escapes (source : Text) (tokens : List Token) (index : Nat) : Prop where
  backslash : source[index]? = some '\\'
  indented : ∀ place c, Text.lineStart source index ≤ place → place < index →
    source[place]? = some c → Text.isIndent c = true
  text : ∃ token ∈ tokens, token.kind = .text ∧ token.offset = index + 1

def Unclaimed (source : Text) (tokens : List Token) (index : Nat) (c : Char) : Prop :=
  Text.isBlank c = true ∨ Escapes source tokens index

theorem unclaimed_of_spares {source : Text} {earlier later : List Text.Line} {line : Text.Line}
    {tokens all : List Token} (cut : Text.lines source = earlier ++ line :: later)
    (within : ∀ token ∈ tokens, token ∈ all) {index : Nat} {c : Char}
    (there : line.body[index]? = some c)
    (spares : SparesAt line (Text.extent earlier) tokens (Text.extent earlier + index) c) :
    Unclaimed source all (Text.extent earlier + index) c := by
  rcases spares with blank | ⟨rfl, same, token, member, shown⟩
  · exact .inl blank
  have bound := (List.getElem?_eq_some_iff.mp there).1
  have stands : Stands source (Text.extent earlier + index) earlier line index :=
    ⟨⟨later, cut⟩, by omega, rfl⟩
  refine .inr ⟨stands.getElem?_body there, fun place d behind before found => ?_,
    token, within token member, shown⟩
  rw [stands.lineStart_eq] at behind
  -- the place is one of the indentation of the line
  obtain ⟨column, rfl⟩ := Nat.exists_eq_add_of_le behind
  have early : column < (line.body.takeWhile Text.isIndent).length := by
    rw [depth] at same
    omega
  have here := List.getElem?_eq_getElem early
  have body : line.body[column]? = (line.body.takeWhile Text.isIndent)[column]? := by
    calc line.body[column]?
      _ = (line.body.takeWhile Text.isIndent ++ line.body.dropWhile Text.isIndent)[column]? := by
        rw [List.takeWhile_append_dropWhile]
      _ = _ := List.getElem?_append_left early
  have same := stands.getElem?_body (body.trans here)
  rw [found, Option.some.injEq] at same
  rw [same]
  exact List.all_eq_true.mp List.all_takeWhile _ (List.getElem_mem early)

theorem lexLines_fill {source : Text} {all tokens : List Token} {earlier lines : List Text.Line}
    {first : Bool} (cut : Text.lines source = earlier ++ lines)
    (lexed : lexLines (1 + earlier.length) (Text.extent earlier) first lines = .ok tokens)
    (within : ∀ token ∈ tokens, token ∈ all) :
    Tiles Token.offset Token.content (Unclaimed source all) (Text.extent earlier)
        (lines.map Text.Line.whole).flatten tokens ∧
      ∀ token ∈ tokens, ∃ earlier line column, Stands source token.offset earlier line column ∧
        token.line = 1 + earlier.length ∧ token.column = column + 1 := by
  induction lines generalizing earlier first tokens with
  | nil =>
    cases lexed
    exact ⟨.nil _, by simp⟩
  | cons line rest ih =>
    have next : Text.lines source = (earlier ++ [line]) ++ rest := by simp [cut]
    have number : 1 + (earlier ++ [line]).length = 1 + earlier.length + 1 := by
      rw [List.length_append, List.length_singleton, Nat.add_assoc]
    have offset : Text.extent (earlier ++ [line]) = Text.extent earlier + line.whole.length := by
      simp [Text.extent]
    have boundary := Text.boundary_lines source line (by simp [cut])
    rw [lexLines] at lexed
    rw [List.map_cons, List.flatten_cons]
    split at lexed
    next empty =>
      obtain ⟨tiles, stand⟩ := ih next (by rw [number, offset]; exact lexed) within
      rw [offset] at tiles
      exact ⟨(Tiles.gap fun index c found => .inl (blank_whole boundary empty found)).append tiles,
        stand⟩
    next =>
      obtain ⟨found, placed, lexed⟩ := Outcome.bind_eq_ok.mp lexed
      obtain ⟨others, more, lexed⟩ := Outcome.bind_eq_ok.mp lexed
      cases lexed
      obtain ⟨here, later⟩ := List.forall_mem_append.mp within
      obtain ⟨fills, online⟩ := place_fills boundary placed
      obtain ⟨tiles, stand⟩ := ih next (by rw [number, offset]; exact more) later
      rw [offset] at tiles
      have body : Tiles Token.offset Token.content (Unclaimed source all) (Text.extent earlier)
          line.body found :=
        fills.widen fun index c there spares => unclaimed_of_spares cut here there spares
      have ending : Tiles Token.offset Token.content (Unclaimed source all)
          (Text.extent earlier + line.body.length) line.ending [] :=
        .gap fun index c found =>
          .inl (blank_of_boundary (boundary c (List.mem_of_getElem? found)))
      have whole : Tiles Token.offset Token.content (Unclaimed source all) (Text.extent earlier)
          line.whole found := by
        have joined := body.append ending
        rwa [List.append_nil] at joined
      refine ⟨whole.append tiles, List.forall_mem_append.mpr ⟨fun token member => ?_, stand⟩⟩
      obtain ⟨numbered, start, inside, places⟩ := online token member
      exact ⟨earlier, line, token.column - 1, ⟨⟨rest, cut⟩, by omega, by omega⟩, numbered, by omega⟩

/-- Where a token stands in a source. -/
structure Placed (source : Text) (token : Token) : Prop where
  inside : token.offset + token.content.length ≤ source.length
  slice : (source.drop token.offset).take token.content.length = token.content
  line : token.line = Text.lineNumber source token.offset
  column : token.column = token.offset - Text.lineStart source token.offset + 1

/-- Tokens that a source falls into, but for blanks and the backslashes before texts. -/
structure Tiled (source : Text) (tokens : List Token) : Prop where
  placed : ∀ token ∈ tokens, Placed source token
  ordered : tokens.Pairwise fun one next => one.offset + one.content.length ≤ next.offset
  covered : ∀ index c, source[index]? = some c →
    (∃ token ∈ tokens, token.offset ≤ index ∧ index < token.offset + token.content.length) ∨
      Text.isBlank c = true ∨ Escapes source tokens index

theorem lex_tiled {source : Text} {tokens : List Token} (lexed : lex source = .ok tokens) :
    Tiled source tokens := by
  have lexed : lexLines (1 + ([] : List Text.Line).length) (Text.extent []) true
      (Text.lines source) = .ok tokens := lexed
  obtain ⟨tiles, stand⟩ := lexLines_fill (List.nil_append _).symm lexed fun token member => member
  rw [Text.flatten_lines, Text.extent_nil] at tiles
  refine ⟨fun token member => ?_, tiles.in_order, fun index c found => ?_⟩
  next =>
    obtain ⟨before, after, same, start⟩ := tiles.content_at member
    obtain ⟨earlier, line, column, stands, numbered, placed⟩ := stand token member
    rw [Nat.zero_add] at start
    refine ⟨?_, ?_, ?_, ?_⟩
    · rw [same, start]
      simp
    · rw [same, start]
      simp
    · rw [numbered, stands.lineNumber_eq]
    · rw [placed, stands.lineStart_eq, stands.place, Nat.add_sub_cancel_left]
  next =>
    have covered := tiles.covered found
    rwa [Nat.zero_add] at covered

def mixedSource : Text :=
  "!!! 5\r\n\r\x0b\t%a#\x7b\"\x7d\"\x7d  b=\"c d\" = e \u2028  \\%x\u0085.f g=h i".toList

def mixedPositions : List (Nat × Nat × Nat) :=
  [(1, 1, 0), (1, 5, 4), (4, 1, 9), (4, 2, 10), (4, 3, 11), (4, 4, 12), (4, 5, 13), (4, 12, 20),
    (4, 13, 21), (4, 14, 22), (4, 20, 28), (4, 22, 30), (5, 1, 33), (5, 4, 36), (6, 1, 39),
    (6, 1, 39), (6, 2, 40), (6, 4, 42), (6, 5, 43), (6, 6, 44), (6, 8, 46)]

theorem lex_tiled_mixed : ∃ tokens, lex mixedSource = .ok tokens ∧
    tokens.map (fun token => (token.line, token.column, token.offset)) = mixedPositions ∧
    Tiled mixedSource tokens := by
  have succeeds : (lex mixedSource).toOption.map
      (List.map fun token => (token.line, token.column, token.offset)) = some mixedPositions := by
    decide +kernel
  obtain ⟨tokens, lexed, same⟩ := Outcome.ok_of_map succeeds
  exact ⟨tokens, lexed, same, lex_tiled lexed⟩

end Stencil.Markup
