import Stencil.Decimal
import Stencil.Script.Number
import Stencil.Text.Basic

/-!
Numbers that a whole text spells: in the digits of any script, with blanks around them and a sign
before them.
-/

set_option autoImplicit false

namespace Stencil.Script.Spelled

/-- A blank that may stand around a number. The information separators may not. -/
def isMargin (c : Char) : Bool := Text.isBlank c && !(28 ≤ c.toNat && c.toNat ≤ 31)

theorem isMargin_of_isIndent {c : Char} (indent : Text.isIndent c = true) :
    isMargin c = true := by
  simp only [Text.isIndent, Bool.or_eq_true, beq_iff_eq] at indent
  rcases indent with indent | indent <;> subst indent <;> decide

/-- A text without the blanks around it, in ASCII digits. -/
def body (text : Text) : Text :=
  (Text.dropRightWhile isMargin (text.dropWhile isMargin)).map Text.asciiDigit

/-- Whether a text begins with a minus sign, and what comes after its sign. -/
def splitSign : Text → Bool × Text
  | '-' :: rest => (true, rest)
  | '+' :: rest => (false, rest)
  | rest => (false, rest)

/-- The base that a text names before its digits. -/
def namedBase? (letter : Char) : Option Nat :=
  match letter.toLower with
  | 'x' => some 16
  | 'o' => some 8
  | 'b' => some 2
  | _ => none

/-- The base of a text that is to be read in the given one, and the digits behind its name. In base
zero the text decides itself. -/
def baseOf (base : Nat) (text : Text) : Nat × Text :=
  match text with
  | '0' :: letter :: rest =>
    match namedBase? letter with
    | some found =>
      if base = 0 ∨ base = found then (found, if rest.head? = some '_' then rest.drop 1 else rest)
      else (base, text)
    | none => (if base = 0 then 10 else base, text)
  | _ => (if base = 0 then 10 else base, text)

/-- Whether digits in base ten that begin with a zero are all zeros. -/
def startsWell (digits : List Char) : Bool :=
  digits.head? != some '0' || digits.all (· == '0')

/-- The integer that a text spells, with underscores between digits. -/
def integer? (base : Nat) (text : Text) : Option Int :=
  let (negative, unsigned) := splitSign (body text)
  let (found, digits) := baseOf base unsigned
  if digits.head? = some '_' then none
  else match scanDigits found digits with
    | ([], _) => none
    | (spelled, []) =>
      if spelled.length > maximalDigits ∧ found ∉ [2, 4, 8, 16, 32] then none
      else if base = 0 ∧ found = 10 ∧ !startsWell spelled then none
      else
        let value : Int := digitsValue found spelled
        some (if negative then -value else value)
    | _ => none

/-- A decimal number with a point or without, and an exponent or none. -/
def decimal? (text : Text) : Option Decimal := do
  let whole := text.takeWhile Char.isDigit
  let rest := text.drop whole.length
  let (behind, rest) := match rest with
    | '.' :: rest =>
      let digits := rest.takeWhile Char.isDigit
      (digits, rest.drop digits.length)
    | _ => ([], rest)
  guard !(whole.isEmpty && behind.isEmpty)
  let exponent : Int ← match rest with
    | [] => pure 0
    | 'e' :: rest => do
      let (negative, digits) := splitSign rest
      guard (!digits.isEmpty && digits.all Char.isDigit)
      let value : Int := digitsValue 10 digits
      pure (if negative then -value else value)
    | _ => none
  return ⟨digitsValue 10 (whole ++ behind), exponent - behind.length⟩

def infinite : Float := 1.0 / 0.0

def notNumber : Float := 0.0 / 0.0

/-- The real number that a text without underscores spells. Letters may be of either case. -/
def real? (text : Text) : Option Float := do
  let (negative, unsigned) := splitSign ((body text).map Char.toLower)
  let magnitude ←
    if unsigned = "inf".toList ∨ unsigned = "infinity".toList then some infinite
    else if unsigned = "nan".toList then some notNumber
    else (decimal? unsigned).map Decimal.toFloat
  return if negative then -magnitude else magnitude

end Stencil.Script.Spelled
