import Stencil.Proofs.Markup.Moved
import Stencil.Proofs.Text.Endings

/-!
Sources one behind the other. The tokens of both are those of the first and then those of the
second, which stand further down. Where the second begins at the margin, there is an indentation
between them, and it is empty.
-/

set_option autoImplicit false

namespace Stencil

/-! ### Lines and rows -/

namespace Text

/-- Lines that end in a line feed are cut off. -/
theorem lines_append_feed (text rest : Text) :
    lines (text ++ '\n' :: rest) = lines (text ++ ['\n']) ++ lines rest := by
  have feed (rest : Text) : lines ('\n' :: rest) = ⟨[], ['\n']⟩ :: lines rest :=
    lines_boundary (by decide) (by decide) rest
  have extend (c : Char) (found : List Line) (present : found ≠ []) (more : List Line) :
      Line.extend c (found ++ more) = Line.extend c found ++ more := by
    cases found with
    | nil => exact absurd rfl present
    | cons first others => rfl
  have some_lines (text : Text) : lines (text ++ ['\n']) ≠ [] := by
    intro none
    have whole := flatten_lines (text ++ ['\n'])
    rw [none] at whole
    simp at whole
  fun_induction lines text with
  | case1 => rw [List.nil_append, List.nil_append, feed, feed]; rfl
  | case2 text ih => rw [List.cons_append, List.cons_append, lines, ih]; rfl
  | case3 c text single boundary ih =>
    have alone {rest : Text} (apart : ∀ others, c = '\r' → rest ≠ '\n' :: others) :
        lines (c :: rest) = ⟨[], [c]⟩ :: lines rest := by
      rw [lines, if_pos boundary]
      exact apart
    cases text with
    | nil =>
      by_cases carriage : c = '\r'
      next =>
        -- with the line feed it is one boundary
        subst carriage
        simp [lines]
      next =>
        have apart (rest : Text) : lines (c :: rest) = ⟨[], [c]⟩ :: lines rest :=
          lines_boundary boundary carriage rest
        simp only [List.cons_append, List.nil_append, apart, feed]
        rfl
    | cons d text =>
      have other (rest : Text) : ∀ others, c = '\r' → d :: rest ≠ '\n' :: others := by
        rintro others carriage same
        cases same
        exact single _ carriage rfl
      simp only [List.cons_append] at ih ⊢
      rw [alone (other _), alone (other _), ih]
      rfl
  | case4 c text single inside ih =>
    rw [List.cons_append, List.cons_append, lines_inside (by simpa using inside),
      lines_inside (by simpa using inside), ih, extend c _ (some_lines text)]

end Text

namespace Markup

theorem rowsFrom_append (number offset : Nat) (first second : List Text.Line) :
    rowsFrom number offset (first ++ second) =
      rowsFrom number offset first ++
        rowsFrom (number + first.length) (offset + (first.map Text.Line.whole).flatten.length)
          second := by
  induction first generalizing number offset with
  | nil => rfl
  | cons line rest ih =>
    have count : number + 1 + rest.length = number + (rest.length + 1) := by omega
    rw [List.cons_append, rowsFrom, rowsFrom, ih, count]
    simp only [List.length_cons, List.map_cons, List.flatten_cons, List.length_append,
      ← Nat.add_assoc]
    split
    next => rfl
    next => rfl

/-- The rows of a source behind one that ends with a line. -/
theorem rows_joined {first : Text} (ended : first.getLast? = some '\n') (second : Text) :
    rows (first ++ second) =
      rows first ++ (rows second).map (Row.moved (Text.lines first).length first.length) := by
  obtain ⟨text, rfl⟩ := List.getLast?_eq_some_iff.mp ended
  rw [List.append_assoc, rows, List.singleton_append, Text.lines_append_feed, rowsFrom_append,
    Text.flatten_lines, Nat.add_comm 1, Nat.add_comm 0, Nat.add_comm _ 1, Nat.add_comm _ 0,
    rowsFrom_moved]
  rfl

end Markup

/-! ### Outcomes further down -/

/-- The error where the source begins further down. -/
def CompileError.moved (lines characters : Nat) : CompileError → CompileError
  | invalidSyntax fault line column => invalidSyntax fault (line + lines) column
  | unexpectedDocType token => unexpectedDocType (token.moved lines characters)
  | unexpectedToken token => unexpectedToken (token.moved lines characters)
  | expectedOther token expected => expectedOther (token.moved lines characters) expected
  | other => other

namespace Lexer

open Markup (Row rows lexRows)

variable {lines characters : Nat}

def movedOutcome (lines characters : Nat) :
    Except CompileError (List Token) → Except CompileError (List Token)
  | .ok tokens => .ok (tokens.map (Token.moved lines characters))
  | .error error => .error (error.moved lines characters)

theorem place_further (number offset : Nat) (first : Bool) (text : Text) :
    place (number + lines) (offset + characters) first text =
      movedOutcome lines characters (place number offset first text) := by
  cases read : pieces text with
  | ok found =>
    have placed : place number offset first text =
        .ok ((shown first found).map fun piece => piece.at number offset) := by rw [place, read]
    rw [Markup.place_moved number offset placed, placed]
    rfl
  | error fault =>
    rw [place, place, read]
    rfl

theorem lexRows_moved (first : Bool) (rows : List Row) :
    lexRows first (rows.map (Row.moved lines characters)) =
      movedOutcome lines characters (lexRows first rows) := by
  induction rows generalizing first with
  | nil => rfl
  | cons row rest ih =>
    rw [List.map_cons, lexRows, lexRows, ih]
    simp only [Row.moved, place_further]
    cases place row.number row.offset first row.text with
    | error error => rfl
    | ok found =>
      cases lexRows false rest with
      | error error => rfl
      | ok others => exact congrArg Except.ok List.map_append.symm

theorem lexRows_append (first : Bool) (rows others : List Row) :
    lexRows first (rows ++ others) = (do
      let found ← lexRows first rows
      let more ← lexRows (first && rows.isEmpty) others
      return found ++ more) := by
  induction rows generalizing first with
  | nil =>
    simp only [List.nil_append, List.isEmpty_nil, Bool.and_true, lexRows, Outcome.ok_bind]
    cases lexRows first others <;> rfl
  | cons row rest ih =>
    rw [List.cons_append, lexRows, lexRows, ih]
    simp only [Bool.false_and, List.isEmpty_cons, Bool.and_false]
    cases place row.number row.offset first row.text with
    | error error => rfl
    | ok here =>
      cases lexRows false rest with
      | error error => rfl
      | ok found =>
        cases lexRows false others with
        | error error => rfl
        | ok more => exact congrArg Except.ok (List.append_assoc here found more).symm

/-- The indentation of a first line at the margin, which the line has behind others only. -/
def marginOf : List Row → List Token
  | [] => []
  | row :: _ => if row.depth = 0 then [⟨.whiteSpace, [], row.number, 1, row.offset⟩] else []

theorem place_behind (row : Row) :
    place row.number row.offset false row.text =
      (place row.number row.offset true row.text).map (marginOf [row] ++ ·) := by
  have length := row.length_margin
  rw [place, place, Row.pieces_text]
  cases construct row.cursor with
  | error fault => rfl
  | ok found =>
    by_cases flush : row.depth = 0
    next =>
      have empty : row.margin.content = [] := List.length_eq_zero_iff.mp (length.trans flush)
      have margin : row.margin.at row.number row.offset =
          ⟨.whiteSpace, [], row.number, 1, row.offset⟩ := by
        rw [Piece.at, empty]
        rfl
      simp [Outcome.ok_bind, pure, Except.pure, shown, empty, marginOf, flush, margin, Except.map]
    next =>
      have present : row.margin.content ≠ [] := by
        rw [← List.length_pos_iff, length]
        exact Nat.pos_of_ne_zero flush
      simp [Outcome.ok_bind, pure, Except.pure, shown, present, marginOf, flush, Except.map]

/-- Lines behind others have the tokens that they have by themselves, but for the indentation of
the first one at the margin. -/
theorem lexRows_behind (rows : List Row) :
    lexRows false rows = (lexRows true rows).map (marginOf rows ++ ·) := by
  cases rows with
  | nil => rfl
  | cons row rest =>
    have margin : marginOf (row :: rest) = marginOf [row] := rfl
    rw [lexRows, lexRows, place_behind, margin]
    cases place row.number row.offset true row.text with
    | error error => rfl
    | ok here =>
      cases lexRows false rest with
      | error error => rfl
      | ok found => exact congrArg Except.ok (List.append_assoc _ here found)

/-- The indentation that comes between two sources: it is there where lines of both count and the
second begins at the margin. -/
def between (first second : Text) : List Token :=
  if (rows first).isEmpty then [] else
    (marginOf (rows second)).map (Token.moved (Text.lines first).length first.length)

/-- The tokens of a source behind one that ends with a line. -/
theorem lex_joined {first : Text} (ended : first.getLast? = some '\n') (second : Text) :
    lex (first ++ second) = (do
      let tokens ← lex first
      let others ← movedOutcome (Text.lines first).length first.length (lex second)
      return tokens ++ between first second ++ others) := by
  have behind : lexRows (true && (rows first).isEmpty)
      ((rows second).map (Row.moved (Text.lines first).length first.length)) =
        (movedOutcome (Text.lines first).length first.length (lexRows true (rows second))).map
          (between first second ++ ·) := by
    rw [lexRows_moved, between]
    cases (rows first).isEmpty with
    | true =>
      rw [Bool.and_true]
      cases lexRows true (rows second) <;> rfl
    | false =>
      rw [Bool.and_false, lexRows_behind]
      cases lexRows true (rows second) with
      | error error => rfl
      | ok others => exact congrArg Except.ok List.map_append
  rw [Markup.lex_eq, Markup.lex_eq, Markup.lex_eq, Markup.rows_joined ended, lexRows_append, behind]
  cases lexRows true (rows first) with
  | error error => rfl
  | ok tokens =>
    cases movedOutcome (Text.lines first).length first.length (lexRows true (rows second)) with
    | error error => rfl
    | ok others => exact congrArg Except.ok (List.append_assoc ..).symm

/-- Lexing goes by lines. Behind a source that ends with a line, the first error is still the first;
another source has its error further down; and if both lex, the tokens of both come one after the
other, those of the second further down. -/
theorem lex_append {first : Text} (ended : first.getLast? = some '\n') (second : Text) :
    (∀ error, lex first = .error error → lex (first ++ second) = .error error) ∧
    (∀ tokens error, lex first = .ok tokens → lex second = .error error →
      ∃ fault line column, error = .invalidSyntax fault line column ∧
        lex (first ++ second) =
          .error (.invalidSyntax fault (line + (Text.lines first).length) column)) ∧
    ∀ tokens others, lex first = .ok tokens → lex second = .ok others →
      lex (first ++ second) = .ok (tokens ++ between first second ++
        others.map (Token.moved (Text.lines first).length first.length)) := by
  have joined := lex_joined ended second
  refine ⟨fun error fails => ?_, fun tokens error lexed fails => ?_, fun tokens others lexed more => ?_⟩
  · rw [joined, fails]
    rfl
  · obtain ⟨fault, line, column, rfl⟩ := Markup.lexRows_error (Markup.lex_eq second ▸ fails)
    refine ⟨fault, line, column, rfl, ?_⟩
    rw [joined, lexed, fails]
    rfl
  · rw [joined, lexed, more]
    rfl

/-- A source that begins with a blank line, and has tags that stay open. -/
def nestedSource : Text := " \n%ul\n  %li one\n".toList

/-- A source whose first line that counts is at the margin, below a blank one. -/
def marginSource : Text := "\r\n- x = 1\n%p= x".toList

/-- A source with a bracket that is not closed. -/
def brokenSource : Text := "\n%p\x7bx\n".toList

theorem lex_append_margin :
    nestedSource.getLast? = some '\n' ∧
    (∃ tokens others, lex nestedSource = .ok tokens ∧ lex marginSource = .ok others ∧
      lex (nestedSource ++ marginSource) =
        .ok (tokens ++ [⟨.whiteSpace, [], 5, 1, 18⟩] ++ others.map (Token.moved 3 16))) ∧
    lex (nestedSource ++ brokenSource) = .error (.invalidSyntax .unterminatedExpression 5 3) := by
  have ended : nestedSource.getLast? = some '\n' := by decide
  have place : (Text.lines nestedSource).length = 3 ∧ nestedSource.length = 16 ∧
      between nestedSource marginSource = [⟨.whiteSpace, [], 5, 1, 18⟩] := by decide +kernel
  obtain ⟨tokens, lexed⟩ := Outcome.ok_of_isSome
    (show (lex nestedSource).toOption.isSome = true by decide +kernel)
  obtain ⟨others, more⟩ := Outcome.ok_of_isSome
    (show (lex marginSource).toOption.isSome = true by decide +kernel)
  have fails : lex brokenSource = .error (.invalidSyntax .unterminatedExpression 2 3) :=
    Outcome.eq_error_of_fault? (by decide +kernel)
  obtain ⟨-, -, both⟩ := lex_append ended marginSource
  obtain ⟨-, broken, -⟩ := lex_append ended brokenSource
  refine ⟨ended, ⟨tokens, others, lexed, more, ?_⟩, ?_⟩
  · rw [both tokens others lexed more, place.1, place.2.1, place.2.2]
  · obtain ⟨fault, line, column, same, moved⟩ := broken tokens _ lexed fails
    cases same
    rw [moved, place.1]

end Lexer

end Stencil
