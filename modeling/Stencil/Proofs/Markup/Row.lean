import Stencil.Program.Builder
import Stencil.Proofs.Outcome
import Stencil.Token.Lexer

/-!
The lines of a source that count, each with its number and its offset. Lexing a source is lexing
them one by one. Where the source has no NUL character, the code that they hold has none.
-/

set_option autoImplicit false

namespace Stencil.Markup

structure Row where
  number : Nat
  offset : Nat
  text : Text

def rowsFrom (number offset : Nat) : List Text.Line → List Row
  | [] => []
  | line :: rest =>
    let others := rowsFrom (number + 1) (offset + line.whole.length) rest
    if Text.allBlank (Lexer.content line) then others
    else ⟨number, offset, Lexer.content line⟩ :: others

def rows (source : Text) : List Row := rowsFrom 1 0 (Text.lines source)

namespace Row

def depth (row : Row) : Nat := (row.text.takeWhile Text.isIndent).length

def content (row : Row) : Text := row.text.dropWhile Text.isIndent

def isDocType (row : Row) : Bool := "!!!".toList.isPrefixOf row.content

/-- The name behind the sign of a document type. -/
def docTypeName? (row : Row) : Option Text :=
  let name := Text.trimRight ((row.content.drop 3).dropWhile Text.isIndent)
  if name.isEmpty then none else some name

def docTypeSign (row : Row) : Token :=
  ⟨.docTypeIdentifier, "!!!".toList, row.number, row.depth + 1, row.offset + row.depth⟩

/-- The statement that a line of silent code holds. -/
def silent? (row : Row) : Option Text :=
  match row.content with
  | '-' :: rest => some (Text.trimRight (rest.dropWhile Text.isIndent))
  | _ => none

def isTagged (row : Row) : Bool := row.content.head?.any fun c => c == '%' || c == '#' || c == '.'

/-- Whether the line has a tag, or code of either sort for its content. -/
def mayOpen (row : Row) : Bool :=
  row.isTagged || row.content.head?.any fun c => c == '=' || c == '-'

end Row

def lexRows (first : Bool) : List Row → Except CompileError (List Token)
  | [] => .ok []
  | row :: rest => do
    let found ← Lexer.place row.number row.offset first row.text
    let others ← lexRows false rest
    return found ++ others

theorem lexLines_eq (number offset : Nat) (first : Bool) (lines : List Text.Line) :
    Lexer.lexLines number offset first lines = lexRows first (rowsFrom number offset lines) := by
  induction lines generalizing number offset first with
  | nil => rfl
  | cons line rest ih =>
    rw [Lexer.lexLines, rowsFrom]
    by_cases blank : Text.allBlank (Lexer.content line)
    next => simp only [blank, if_true, ih]
    next => simp only [blank, Bool.false_eq_true, if_false, lexRows, ih]

theorem lex_eq (source : Text) : Lexer.lex source = lexRows true (rows source) :=
  lexLines_eq 1 0 true (Text.lines source)

/-- Lexing fails on account of a line. -/
theorem lexRows_error {first : Bool} {rows : List Row} {fault : CompileError}
    (failed : lexRows first rows = .error fault) :
    ∃ cause line column, fault = .invalidSyntax cause line column := by
  induction rows generalizing first with
  | nil => cases failed
  | cons row rest ih =>
    rcases Outcome.bind_eq_error.mp failed with here | ⟨found, _, failed⟩
    · rw [Lexer.place] at here
      split at here
      next => cases here
      next =>
        cases here
        exact ⟨_, _, _, rfl⟩
    · rcases Outcome.bind_eq_error.mp failed with later | ⟨others, _, done⟩
      · exact ih later
      · cases done

theorem rowsFrom_not_blank {number offset : Nat} {lines : List Text.Line} {row : Row}
    (member : row ∈ rowsFrom number offset lines) : Text.allBlank row.text = false := by
  induction lines generalizing number offset with
  | nil => cases member
  | cons line rest ih =>
    rw [rowsFrom] at member
    by_cases blank : Text.allBlank (Lexer.content line)
    next =>
      simp only [blank, if_true] at member
      exact ih member
    next =>
      simp only [blank, Bool.false_eq_true, if_false, List.mem_cons] at member
      rcases member with rfl | later
      · simpa using blank
      · exact ih later

end Stencil.Markup

/-! ### Source without NUL characters -/

namespace Stencil

namespace Markup

/-- Source that can be read: no NUL character is in it. -/
def Readable (text : Text) : Prop := '\x00' ∉ text

theorem mem_lines {text : Text} {line : Text.Line} (member : line ∈ Text.lines text) {c : Char}
    (inside : c ∈ line.whole) : c ∈ text := by
  rw [← Text.flatten_lines text]
  exact List.mem_flatten.mpr ⟨line.whole, List.mem_map_of_mem member, inside⟩

theorem mem_content {line : Text.Line} {c : Char} (inside : c ∈ Lexer.content line) :
    c ∈ line.whole := by
  rw [Lexer.content] at inside
  split at inside
  next => exact List.mem_append_left _ inside
  next => exact inside

theorem mem_rowsFrom {number offset : Nat} {lines : List Text.Line} {row : Row}
    (member : row ∈ rowsFrom number offset lines) :
    ∃ line ∈ lines, row.text = Lexer.content line := by
  induction lines generalizing number offset with
  | nil => cases member
  | cons line rest ih =>
    rw [rowsFrom] at member
    by_cases blank : Text.allBlank (Lexer.content line)
    next =>
      simp only [blank, if_true] at member
      obtain ⟨other, inside, same⟩ := ih member
      exact ⟨other, List.mem_cons_of_mem _ inside, same⟩
    next =>
      simp only [blank, Bool.false_eq_true, if_false, List.mem_cons] at member
      rcases member with rfl | later
      · exact ⟨line, List.mem_cons_self .., rfl⟩
      · obtain ⟨other, inside, same⟩ := ih later
        exact ⟨other, List.mem_cons_of_mem _ inside, same⟩

theorem readable_row {source : Text} (readable : Readable source) {row : Row}
    (member : row ∈ rows source) : Readable row.text := by
  obtain ⟨line, inside, same⟩ := mem_rowsFrom member
  exact fun nul => readable (mem_lines inside (mem_content (same ▸ nul)))

theorem mem_dropRightWhile {test : Char → Bool} {text : Text} {c : Char}
    (inside : c ∈ Text.dropRightWhile test text) : c ∈ text := by
  rw [Text.dropRightWhile, List.mem_reverse] at inside
  exact List.mem_reverse.mp ((List.dropWhile_sublist _).mem inside)

theorem readable_silent {row : Row} (readable : Readable row.text) {code : Text}
    (silent : row.silent? = some code) : Readable code := by
  rw [Row.silent?] at silent
  split at silent
  next rest shape =>
    cases silent
    intro nul
    have inside : '\x00' ∈ row.content := by
      rw [shape]
      exact List.mem_cons_of_mem _ ((List.dropWhile_sublist _).mem (mem_dropRightWhile nul))
    exact readable ((List.dropWhile_sublist _).mem inside)
  next => cases silent

theorem readable_headerOf {code : Text} (readable : Readable code) :
    Readable (Builder.headerOf code) := by
  have trimmed : Readable (Text.trimRight code) := fun nul => readable (mem_dropRightWhile nul)
  rw [Builder.headerOf]
  split
  next => exact trimmed
  next =>
    intro nul
    rcases List.mem_append.mp nul with inside | other
    · exact trimmed inside
    · exact absurd other (by decide)

end Markup

namespace Script

/-- Readable code binds names or is too deep, and nothing else can come of it. -/
theorem assignedNames_readable {code : Text} (readable : Markup.Readable code) :
    (∃ names, assignedNames code = .ok names) ∨ assignedNames code = .error .tooDeep := by
  have whole : (completed code).contains '\x00' = false := by
    rw [← Bool.not_eq_true, List.contains_iff_mem, completed]
    intro nul
    split at nul
    next =>
      rcases List.mem_append.mp nul with inside | other
      · exact readable inside
      · exact absurd other (by decide)
    next => exact readable nul
  simp only [assignedNames, readModule, whole, Bool.false_eq_true, if_false]
  cases parseModule (completed code) with
  | none => exact .inl ⟨[], rfl⟩
  | some statements =>
    simp only
    split
    next => exact .inr rfl
    next => exact .inl ⟨_, rfl⟩

end Script

end Stencil
