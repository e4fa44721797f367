import Stencil.Proofs.Script.Sum
import Stencil.Script.Builtin

/-!
Entries of a template without code: sums of literals, some of them escaped when they are put out.
-/

set_option autoImplicit false

namespace Stencil.Script.Static

open Lexer Reader Grammar

structure Piece where
  escaped : Bool
  text : Text

structure Entry where
  first : Piece
  others : List Piece

namespace Piece

def kind (piece : Piece) : OutputKind := if piece.escaped then .escaped else .safe

def body (piece : Piece) : Text := Fragment.literalBody piece.text

def code (piece : Piece) : Text :=
  if piece.escaped then escapeName ++ '(' :: literalOf piece.body ++ [')']
  else literalOf piece.body

/-- What a piece adds to the text of its entry. -/
def shown (piece : Piece) : Text :=
  if piece.escaped then Builtin.escapeText false piece.text else piece.text

def tokens (piece : Piece) : List Token :=
  if piece.escaped then
    [.name escapeName, .symbol .openParen, plainQuotation piece.body, .symbol .closeParen]
  else [plainQuotation piece.body]

def expr (piece : Piece) : Expr :=
  if piece.escaped then
    .call (.name escapeName) [.positional (.constant (.string (Points.ofText piece.text)))]
  else .constant (.string (Points.ofText piece.text))

def addend (piece : Piece) : Addend := ⟨piece.code, piece.tokens, piece.expr⟩

def Readable (piece : Piece) : Prop := '\x00' ∉ piece.text

end Piece

/-! ### Words -/

theorem clean_literal {text : Text} (readable : '\x00' ∉ text) :
    Text.Clean (literalOf (Fragment.literalBody text)) :=
  have quote : Text.Clean ['\''] := by decide
  Text.clean_append (Text.clean_append quote (Text.clean_literalBody readable)) quote

theorem words_literal {text rest : Text} (indents : List Width) (blank : Bool)
    (closers : List Symbol) (readable : '\x00' ∉ text) (apart : rest.head? ≠ some '\'') :
    words ⟨indents, closers⟩ (.inLine blank) (literalOf (Fragment.literalBody text) ++ rest) =
      (words ⟨indents, closers⟩ (.inLine false) rest).map
        (plainQuotation (Fragment.literalBody text) :: ·) := by
  have shape : literalOf (Fragment.literalBody text) ++ rest =
      '\'' :: (Fragment.literalBody text ++ '\'' :: rest) := by simp [literalOf]
  rw [shape]
  rcases words_quotation indents closers blank rfl (Text.isInside_literalBody text) apart with
    found | ⟨broken, _⟩
  · exact found
  · exact absurd rfl (Text.clean_literalBody readable _ broken).1

theorem primary_literal (reach : Nat) (text : Text) {rest : List Token} (ends : OperandEnds rest) :
    primary (Nested.upTo reach) (plainQuotation (Fragment.literalBody text) :: rest) =
      some (.constant (.string (Points.ofText text)), rest) :=
  primary_quotation (Escape.unescape?_of_spells (Escape.spells_literalBody text)) ends

/-- A literal is the same wherever it stands. -/
theorem fits_literal (reach : Nat) {text : Text} (readable : '\x00' ∉ text) :
    (Piece.mk false text).addend.Fits reach where
  clean := clean_literal readable
  words indents blank _ apart := words_literal indents blank _ readable apart
  begins rest := begins_quotation _ rest
  term rest ends := term_of_primary (begins_quotation _ rest) (primary_literal reach text ends) ends

/-- So is a call of the function that escapes. -/
theorem fits_escaped (reach : Nat) {text : Text} (readable : '\x00' ∉ text) :
    (Piece.mk true text).addend.Fits (reach + 1) where
  clean := by
    have called := Text.clean_append (Text.clean_append
      (show Text.Clean (escapeName ++ ['(']) by decide) (clean_literal readable))
      (show Text.Clean [')'] by decide)
    simpa [Piece.addend, Piece.code, Piece.body] using called
  words indents blank rest apart := by
    have shape : (Piece.mk true text).addend.code ++ rest =
        escapeName ++ '(' :: (literalOf (Fragment.literalBody text) ++ ')' :: rest) := by
      simp [Piece.addend, Piece.code, Piece.body]
    have opened (after : Text) :
        words ⟨indents, [.closeParen]⟩ (.inLine blank) (escapeName ++ '(' :: after) =
          (words ⟨indents, [.closeParen, .closeParen]⟩ (.inLine false) after).map
            ([.name escapeName, .symbol .openParen] ++ ·) := words_steps 2 rfl
    have closed :
        words ⟨indents, [.closeParen, .closeParen]⟩ (.inLine false) (')' :: rest) =
          (words ⟨indents, [.closeParen]⟩ (.inLine false) rest).map
            ([.symbol .closeParen] ++ ·) := words_steps 1 rfl
    rw [shape, opened, words_literal indents false _ readable (by simp), closed]
    simp [Piece.addend, Piece.tokens, Piece.body, Function.comp_def]
  begins rest := ⟨_, _, rfl, rfl⟩
  term rest ends := by
    have closes := ends_closeParen rest
    have begins := begins_quotation (Fragment.literalBody text) (.symbol .closeParen :: rest)
    have argument : (Nested.upTo (reach + 1)).expression
        (plainQuotation (Fragment.literalBody text) :: .symbol .closeParen :: rest) =
          some (.constant (.string (Points.ofText text)), .symbol .closeParen :: rest) :=
      expression_of_sum begins (sum_of_terms (term_of_primary begins
        (primary_literal reach text closes.operandEnds) closes.operandEnds) (.stop closes)) closes
    have shorter : rest.length <
        (plainQuotation (Fragment.literalBody text) :: .symbol .closeParen :: rest).length := by
      simp only [List.length_cons]
      omega
    have called : primary (Nested.upTo (reach + 1)) ((Piece.mk true text).addend.tokens ++ rest) =
        some ((Piece.mk true text).addend.expr, rest) := primary_call argument shorter ends
    exact term_of_primary ⟨_, _, rfl, rfl⟩ called ends

theorem fits_piece (reach : Nat) {piece : Piece} (readable : piece.Readable) :
    piece.addend.Fits (reach + 1) := by
  obtain ⟨escaped, text⟩ := piece
  cases escaped with
  | false => exact fits_literal (reach + 1) readable
  | true => exact fits_escaped reach readable

/-! ### Entries -/

namespace Entry

def pieces (entry : Entry) : List Piece := entry.first :: entry.others

def code (entry : Entry) : Text := sumCode entry.first.addend (entry.others.map Piece.addend)

def shown (entry : Entry) : Text := entry.pieces.flatMap Piece.shown

/-- The words of the line that puts an entry out. -/
def tokens (entry : Entry) : List Token :=
  appendTokens (sumTokens entry.first.addend (entry.others.map Piece.addend))

def expr (entry : Entry) : Expr := sumExpr entry.first.addend (entry.others.map Piece.addend)

def statement (entry : Entry) : Stmt := .expression (appendCall entry.expr)

def Readable (entry : Entry) : Prop := ∀ piece ∈ entry.pieces, piece.Readable

theorem code_eq (entry : Entry) :
    entry.code = Text.join " + ".toList (entry.pieces.map Piece.code) := by
  have codes : entry.pieces.map Piece.code =
      (entry.first.addend :: entry.others.map Piece.addend).map Addend.code := by
    simp [pieces, Piece.addend]
  rw [codes, sumCode_eq, code]

theorem Readable.fits {entry : Entry} (readable : entry.Readable) (reach : Nat) :
    ∀ one ∈ entry.first.addend :: entry.others.map Piece.addend, one.Fits (reach + 1) := by
  intro one member
  have inside : one ∈ entry.pieces.map Piece.addend := member
  obtain ⟨piece, known, rfl⟩ := List.mem_map.mp inside
  exact fits_piece reach (readable piece known)

end Entry

/-- Lines that put entries out. -/
theorem reads_entries {outputs : List Output} {entries : List Entry}
    (same : outputs.map Output.expression = entries.map Entry.code)
    (readable : ∀ entry ∈ entries, entry.Readable) (reach height : Nat) :
    Reads (reach + 3) height (outputs.map fun output => Statement.line (.output output))
      (entries.flatMap fun entry => entry.tokens ++ [Token.newline]) (entries.map Entry.statement) := by
  induction entries generalizing outputs with
  | nil =>
    rw [List.map_nil, List.map_eq_nil_iff] at same
    subst same
    exact .nil height
  | cons entry entries ih =>
    obtain ⟨output, rest, rfl, first, others⟩ := List.map_eq_cons_iff.mp same
    have fits := Entry.Readable.fits (readable entry (List.mem_cons_self ..)) reach
    have spoken : Spoken (Line.output output).statementForm entry.tokens := by
      rw [Line.statementForm, first]
      exact spoken_appending fits
    have behind := ih others fun one member => readable one (List.mem_cons_of_mem _ member)
    have line := Reads.line spoken (readsLine_appending (legible_of_fits fits)) behind
    simpa [Entry.statement, Entry.expr] using line

end Stencil.Script.Static
