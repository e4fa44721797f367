import Stencil.Text.Printable

/-!
Quoted text: a text between quotes, on one line and in printable characters only. Single quotes
enclose it unless it holds a single quote and no double quote.
-/

set_option autoImplicit false

namespace Stencil.Text

def hexDigit (value : Nat) : Char := Nat.digitChar (value % 16)

/-- The given number of hexadecimal digits, the lowest ones if there are more. -/
def hex : Nat → Nat → Text
  | 0, _ => []
  | width + 1, value => hex width (value / 16) ++ [hexDigit value]

theorem length_hex (width value : Nat) : (hex width value).length = width := by
  induction width generalizing value with
  | zero => rfl
  | succ width ih => simp [hex, ih]

def quoteFor (text : Text) : Char :=
  if text.contains '\'' && !text.contains '"' then '"' else '\''

/-- The shortest of the three numeric escapes that holds the character. -/
def numericEscape (c : Char) : Text :=
  if c.toNat < 0x100 then '\\' :: 'x' :: hex 2 c.toNat
  else if c.toNat < 0x10000 then '\\' :: 'u' :: hex 4 c.toNat
  else '\\' :: 'U' :: hex 8 c.toNat

def quotedChar (quote c : Char) : Text :=
  if c == quote || c == '\\' then ['\\', c]
  else if c == '\n' then ['\\', 'n']
  else if c == '\r' then ['\\', 'r']
  else if c == '\t' then ['\\', 't']
  else if isPrintable c then [c]
  else numericEscape c

def quoted (text : Text) : Text :=
  let quote := quoteFor text
  quote :: text.flatMap (quotedChar quote) ++ [quote]

end Stencil.Text

/-!
Code points. Escapes in a literal can name those that are no characters, the surrogates, so what a
literal holds is a list of code points. It is a text if there are no surrogates in it.
-/

namespace Stencil

inductive Point where
  | char (c : Char)
  | surrogate (offset : Fin 2048)
deriving DecidableEq, Repr

abbrev Points := List Point

namespace Point

def firstSurrogate : Nat := 0xD800

def code : Point → Nat
  | char c => c.toNat
  | surrogate offset => firstSurrogate + offset

def ofCode? (code : Nat) : Option Point :=
  if h : code.isValidChar then some (char (Char.ofNatAux code h))
  else if h : firstSurrogate ≤ code ∧ code - firstSurrogate < 2048 then
    some (surrogate ⟨code - firstSurrogate, h.2⟩)
  else none

theorem code_ofCode? {number : Nat} {point : Point} (found : ofCode? number = some point) :
    point.code = number := by
  unfold ofCode? at found
  by_cases valid : number.isValidChar
  next =>
    rw [dif_pos valid] at found
    cases found
    rfl
  next =>
    rw [dif_neg valid] at found
    split at found
    next inside =>
      cases found
      simp only [code]
      omega
    next => cases found

def char? : Point → Option Char
  | char c => some c
  | surrogate _ => none

/-- Stands for what is no character. -/
def replacement : Char := '\uFFFD'

def shown (point : Point) : Char := point.char?.getD replacement

def quoted (quote : Char) : Point → Text
  | char c => Text.quotedChar quote c
  | surrogate offset => '\\' :: 'u' :: Text.hex 4 (firstSurrogate + offset)

end Point

namespace Points

def ofText (text : Text) : Points := text.map .char

/-- The text that the points are, if there are no surrogates among them. -/
def text? (points : Points) : Option Text := points.mapM Point.char?

theorem text?_ofText (text : Text) : (ofText text).text? = some text := by
  induction text with
  | nil => rfl
  | cons c rest ih =>
    simp only [text?, ofText, List.map_cons] at ih ⊢
    simp [List.mapM_cons, Point.char?, ih]

theorem ofText_text? {points : Points} {text : Text} (found : points.text? = some text) :
    ofText text = points := by
  induction points generalizing text with
  | nil =>
    cases found
    rfl
  | cons point rest ih =>
    rw [text?, List.mapM_cons] at found
    obtain ⟨c, first, found⟩ := Option.bind_eq_some_iff.mp found
    obtain ⟨others, behind, found⟩ := Option.bind_eq_some_iff.mp found
    cases found
    cases point with
    | char d =>
      cases first
      exact congrArg (Point.char c :: ·) (ih behind)
    | surrogate offset => cases first

/-- Compares point by point; a proper beginning comes first. -/
def precedes : Points → Points → Bool
  | [], _ => true
  | _ :: _, [] => false
  | a :: left, b :: right => a.code < b.code || a == b && precedes left right

def quoted (points : Points) : Text :=
  let quote := Text.quoteFor (points.filterMap Point.char?)
  quote :: points.flatMap (Point.quoted quote) ++ [quote]

theorem quoted_ofText (text : Text) : (ofText text).quoted = Text.quoted text := by
  have kept : (ofText text).filterMap Point.char? = text := by
    simp [ofText, List.filterMap_map, Function.comp_def, Point.char?]
  simp [quoted, Text.quoted, kept]
  simp [ofText, List.flatMap_map, Point.quoted]

end Points

end Stencil
