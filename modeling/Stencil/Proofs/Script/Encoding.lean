import Stencil.Proofs.Script.Literal
import Stencil.Proofs.Text.Unbroken

/-!
Two ways to write what a token says: as the inside of a literal in single quotes, and as an
expression of its own. Both mean the same text.
-/

set_option autoImplicit false

namespace Stencil

namespace Script

open Lexer

/-- Whether code is a string, and nothing else, that means the given text. -/
def Denotes (code value : Text) : Prop :=
  '\x00' ∉ code ∧ parseExpression code = some (.constant (.string (Points.ofText value)))

theorem expressionTokens_quoted {quote : Char} {body : Text} (isQuote : isQuote quote = true)
    (inside : Text.isInside quote body = true) (unbroken : Text.Unbroken body) :
    expressionTokens (quote :: body ++ [quote]) = some [plainQuotation body] := by
  have kind : quote = '"' ∨ quote = '\'' := by simpa [Lexer.isQuote] using isQuote
  have plain : Text.Unbroken [quote] := by rcases kind with rfl | rfl <;> decide
  have content : beginsContent quote = true := by rcases kind with rfl | rfl <;> rfl
  have all : Text.Unbroken (quote :: body ++ [quote]) :=
    Text.unbroken_append.mpr ⟨Text.unbroken_append.mpr ⟨plain, unbroken⟩, plain⟩
  have start := words_lineStart content (body ++ [quote]) [] 0
  have apart : ([] : Text).head? ≠ some quote := by simp
  simp only [Text.spaces, List.replicate_zero, List.nil_append] at start
  rw [expressionTokens, unifyBreaks_eq fun c member => (all c member).2, scanAll_eq,
    List.cons_append, start]
  rcases words_quotation [] [] false isQuote inside apart with found | ⟨broken, _⟩
  · simp [adjust, State.width, Width.zero, found, words_nil]
  · exact absurd rfl (unbroken '\n' broken).1

theorem denotes_of_meaning {quote : Char} {body value : Text} (isQuote : isQuote quote = true)
    (inside : Text.isInside quote body = true) (clean : Text.Clean body)
    (meant : Escape.unescape? body = some (Points.ofText value)) :
    Denotes (quote :: body ++ [quote]) value := by
  refine ⟨fun nul => ?_,
    parseExpression_quotation (expressionTokens_quoted isQuote inside clean.unbroken) meant⟩
  have kind : quote = '"' ∨ quote = '\'' := by simpa [Lexer.isQuote] using isQuote
  have plain : Text.Clean [quote] := by rcases kind with rfl | rfl <;> decide
  exact (Text.clean_append (Text.clean_append plain clean) plain '\x00' nul).2.2 rfl

/-- The inside of a literal denotes the text it was made from. -/
theorem denotes_literalBody {value : Text} (readable : '\x00' ∉ value) :
    Denotes ('\'' :: Fragment.literalBody value ++ ['\'']) value :=
  denotes_of_meaning rfl (Text.isInside_literalBody value) (Text.clean_literalBody readable)
    (Escape.unescape?_of_spells (Escape.spells_literalBody value))

/-- A quoted text denotes the text, whatever characters are in it. -/
theorem denotes_quoted (value : Text) : Denotes (Text.quoted value) value := by
  have known := Text.isQuote_quoteFor value
  have isQuote : isQuote (Text.quoteFor value) = true := by
    rcases known with same | same <;> rw [same] <;> rfl
  have escaped : Escape.simple? (Text.quoteFor value) = some (Text.quoteFor value) := by
    rcases known with same | same <;> rw [same] <;> rfl
  exact denotes_of_meaning isQuote (Text.isInside_flatMap (Text.isInside_quotedChar known) value)
    (Text.clean_flatMap fun c _ => Text.clean_quotedChar _ known c)
    (Escape.unescape?_of_spells (Escape.spells_quoted _ escaped value))

/-- Code that denotes a text is the literal of it. -/
theorem literal_of_denotes {code value : Text} (begins : ∀ c ∈ code.head?, Text.isIndent c = false)
    (denotes : Denotes code value) : literal code = .ok (.text value) := by
  have start : code.dropWhile Text.isIndent = code := by
    cases code with
    | nil => rfl
    | cons c rest => rw [List.dropWhile_cons, begins c rfl]; rfl
  have readable : code.contains '\x00' = false := by simpa using denotes.1
  simp only [literal, start, readable, denotes.2, Literal.value, Literal.constantDatum,
    Datum.ofPoints_ofText, Bool.false_eq_true, if_false]

end Script

namespace Fragment

open Script (Denotes)

/-- The text that a token stands for: what it holds, or the value of the literal that it holds. -/
inductive Says (token : Token) : Text → Prop where
  | content (kind : token.kind = .string ∨ token.kind = .text) : Says token token.content
  | value {value : Text} (kind : token.kind = .quotedString)
      (begins : ∀ c ∈ token.content.head?, Text.isIndent c = false)
      (denotes : Denotes token.content value) : Says token value

/-- Both ways to write a token denote what it says. The inside of a literal neither ends the literal
nor its line, and insides that stand side by side are the inside of what they say in a row. -/
theorem encodings_agree {token : Token} {value : Text} (spoken : Says token value)
    (readable : '\x00' ∉ value) :
    (∃ body alone, ofToken token true = .ok body ∧ ofToken token false = .ok alone ∧
      Denotes ('\'' :: body ++ ['\'']) value ∧ Denotes alone value ∧
      Text.isInside '\'' body = true ∧ Text.Unbroken body) ∧
    ∀ left right, literalBody (left ++ right) = literalBody left ++ literalBody right := by
  refine ⟨?_, literalBody_append⟩
  have within := Script.denotes_literalBody readable
  have closed := Text.isInside_literalBody value
  have unbroken := Text.unbroken_literalBody value
  cases spoken with
  | content kind =>
    refine ⟨literalBody token.content, Text.quoted token.content, ?_, ?_, within,
      Script.denotes_quoted _, closed, unbroken⟩
    · rcases kind with kind | kind <;> simp [ofToken, ofText, kind]
    · rcases kind with kind | kind <;> simp [ofToken, ofText, kind]
  | value kind begins denotes =>
    have meant : quotedValue token.content = .ok value := by
      rw [quotedValue, Script.literal_of_denotes begins denotes]
      rfl
    refine ⟨literalBody value, token.content, ?_, ?_, within, denotes, closed, unbroken⟩
    · simp [ofToken, kind, meant, Except.map]
    · simp [ofToken, kind]

/-- A quoted token in which quotes, a letter, a backslash and a line break are spelled out. -/
def quotedToken : Token := ⟨.quotedString, "\"it's \\\"\\u00e9\\\"\\\\\\n\"".toList, 1, 5, 4⟩

def quotedMeaning : Text := "it's \"\u00e9\"\\\n".toList

theorem denotes_quotedToken : Denotes quotedToken.content quotedMeaning := by
  have spelled : Denotes ('"' :: "it's \\\"\\u00e9\\\"\\\\\\n".toList ++ ['"']) quotedMeaning :=
    Script.denotes_of_meaning rfl rfl (by decide) (by decide +kernel)
  exact spelled

theorem encodings_agree_quoted :
    Says quotedToken quotedMeaning ∧ '\x00' ∉ quotedMeaning ∧
    ofToken quotedToken true = .ok "it\\'s \"\u00e9\"\\\\\\n".toList ∧
    Denotes "'it\\'s \"\u00e9\"\\\\\\n'".toList quotedMeaning ∧
    Denotes quotedToken.content quotedMeaning := by
  have begins : ∀ c ∈ quotedToken.content.head?, Text.isIndent c = false := by
    intro c first
    cases first
    rfl
  have spoken : Says quotedToken quotedMeaning := .value rfl begins denotes_quotedToken
  have readable : '\x00' ∉ quotedMeaning := by decide
  have meant : quotedValue quotedToken.content = .ok quotedMeaning := by
    rw [quotedValue, Script.literal_of_denotes begins denotes_quotedToken]
    rfl
  have written : ofToken quotedToken true = .ok (literalBody quotedMeaning) := by
    simp only [ofToken, show quotedToken.kind = .quotedString from rfl, if_true, meant, Except.map]
  obtain ⟨⟨body, alone, inside, outside, within, denotes, -, -⟩, -⟩ := encodings_agree spoken readable
  rw [written] at inside
  cases inside
  cases outside
  exact ⟨spoken, readable, written, within, denotes⟩

end Fragment

end Stencil
