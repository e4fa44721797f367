import Stencil.Script.Token
import Stencil.Text.Word

/-!
Number literals. Underscores may stand between digits, one at a time; a decimal integer has no
leading zeros; letters do not follow a number, save those that begin certain keywords.
-/

set_option autoImplicit false

namespace Stencil.Script

def digitValue? (base : Nat) (c : Char) : Option Nat :=
  let code := c.toNat
  let value :=
    if 48 ≤ code ∧ code ≤ 57 then code - 48
    else if 97 ≤ code ∧ code ≤ 122 then code - 87
    else if 65 ≤ code ∧ code ≤ 90 then code - 55
    else base
  if value < base then some value else none

def isDigitOf (base : Nat) (c : Char) : Bool := (digitValue? base c).isSome

def digitsValue (base : Nat) (digits : List Char) : Nat :=
  digits.foldl (fun sum c => sum * base + (digitValue? base c).getD 0) 0

/-- Digits as far as they go, and the text after them. An underscore may stand before a digit. -/
def scanDigits (base : Nat) : Text → List Char × Text
  | '_' :: c :: rest =>
    if isDigitOf base c then
      let (digits, after) := scanDigits base rest
      (c :: digits, after)
    else ([], '_' :: c :: rest)
  | c :: rest =>
    if isDigitOf base c then
      let (digits, after) := scanDigits base rest
      (c :: digits, after)
    else ([], c :: rest)
  | [] => ([], [])

def startsWithDigit : Text → Bool
  | c :: _ => isDigitOf 10 c
  | [] => false

/-- A character that may stand in a word, whether or not the word is a name. -/
def isWordPart (c : Char) : Bool := Text.isAsciiWord c || 128 ≤ c.toNat

/-- The beginnings of words that may follow a number without a blank. -/
def followers : List Text :=
  ["and".toList, "else".toList, "for".toList, "if".toList, "in".toList, "is".toList,
    "or".toList, "not".toList]

def mayFollowNumber (text : Text) : Bool :=
  followers.any (·.isPrefixOf text) || !(text.head?.any isWordPart)

def ends (number : Number) (text : Text) : Option (Number × Text) :=
  if mayFollowNumber text then some (number, text) else none

/-- An integer with more decimal digits than this is not read. -/
def maximalDigits : Nat := 4300

/-- The number of a base other than ten whose digits begin here. -/
def basedNumber? (base : Nat) (text : Text) : Option (Number × Text) :=
  match scanDigits base text with
  | ([], _) => none
  | (digits, rest) => ends (.integer (digitsValue base digits)) rest

/-- The digits behind a decimal point, if a point comes next. -/
def fraction? : Text → Option (List Char × Text)
  | '.' :: rest => some (if startsWithDigit rest then scanDigits 10 rest else ([], rest))
  | _ => none

inductive ExponentPart where
  | absent
  | malformed
  | found (value : Int) (rest : Text)

def unsignedExponent (negative : Bool) (text : Text) : ExponentPart :=
  if startsWithDigit text then
    let (digits, rest) := scanDigits 10 text
    let value : Int := digitsValue 10 digits
    .found (if negative then -value else value) rest
  else .malformed

/-- The exponent that comes next. A letter that no digit follows belongs to the next word. -/
def exponentPart : Text → ExponentPart
  | c :: rest =>
    if c == 'e' || c == 'E' then
      match rest with
      | '+' :: after => unsignedExponent false after
      | '-' :: after => unsignedExponent true after
      | _ => if startsWithDigit rest then unsignedExponent false rest else .absent
    else .absent
  | [] => .absent

def hasLeadingZero (digits : List Char) : Bool :=
  digits.head? == some '0' && digits.any (· != '0')

/-- Decides between an integer, a real and an imaginary number by what follows the digits. -/
def finishDecimal (whole : List Char) (text : Text) : Option (Number × Text) :=
  let (behind, rest, pointed) := match fraction? text with
    | some (digits, rest) => (digits, rest, true)
    | none => ([], text, false)
  let value : Int → Decimal := fun exponent =>
    ⟨digitsValue 10 (whole ++ behind), exponent - behind.length⟩
  let close : Int → Bool → Text → Option (Number × Text) := fun exponent real rest =>
    match rest with
    | '_' :: _ => none
    | c :: after =>
      if c == 'j' || c == 'J' then ends (.imaginary (value exponent)) after
      else if real then ends (.real (value exponent)) rest
      else if hasLeadingZero whole || whole.length > maximalDigits then none
      else ends (.integer (digitsValue 10 whole)) rest
    | [] =>
      if real then ends (.real (value exponent)) rest
      else if hasLeadingZero whole || whole.length > maximalDigits then none
      else ends (.integer (digitsValue 10 whole)) rest
  match exponentPart rest with
  | .absent => close 0 pointed rest
  | .malformed => none
  | .found exponent after => close exponent true after

/-- The number at the start of a text that begins with a digit, or with a point and a digit. -/
def scanNumber (text : Text) : Option (Number × Text) :=
  match text with
  | '0' :: c :: rest =>
    if c == 'x' || c == 'X' then basedNumber? 16 rest
    else if c == 'o' || c == 'O' then basedNumber? 8 rest
    else if c == 'b' || c == 'B' then basedNumber? 2 rest
    else
      let (digits, after) := scanDigits 10 text
      finishDecimal digits after
  | _ =>
    let (digits, after) := scanDigits 10 text
    finishDecimal digits after

end Stencil.Script
