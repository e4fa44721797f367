import Stencil.Text.Basic

/-!
Exact decimals and their nearest binary floating point numbers.
-/

set_option autoImplicit false

namespace Stencil

/-- The number `digits * 10 ^ exponent`. -/
structure Decimal where
  digits : Nat
  exponent : Int
deriving DecidableEq, Repr

namespace Decimal

/-- The position of the decimal point counted from the first digit. -/
def magnitude (decimal : Decimal) : Int :=
  (Text.decimal decimal.digits).length + decimal.exponent

/-- The nearest floating point number. Outside the range of magnitudes that can be told from
zero and infinity the exponent itself need not be computed with. -/
def toFloat (decimal : Decimal) : Float :=
  if decimal.digits = 0 then 0.0
  else if decimal.magnitude > 310 then 1.0 / 0.0
  else if decimal.magnitude < -330 then 0.0
  else if decimal.exponent < 0 then
    Float.ofScientific decimal.digits true decimal.exponent.natAbs
  else Float.ofScientific decimal.digits false decimal.exponent.natAbs

end Decimal

end Stencil

/-!
The shortest decimal that reads back as a given binary floating point number, and the nearest to
it of those that are equally short.
-/

namespace Stencil.Decimal

-- Powers are those of the core library, also where an import knows others.
attribute [local instance (2000)] instPowNat

/-- The positive number `mantissa * 2 ^ exponent`. Where the mantissa is the least one of its
exponent, the numbers below lie twice as dense as those above. -/
structure Binary where
  mantissa : Nat
  exponent : Int
  least : Bool
deriving DecidableEq, Repr

/-- A non-negative fraction. -/
structure Fraction where
  numerator : Nat
  denominator : Nat

/-- `count` quarters of `2 ^ exponent`. -/
def quarters (count : Nat) (exponent : Int) : Fraction :=
  if exponent < 2 then ⟨count, 2 ^ (2 - exponent).toNat⟩
  else ⟨count * 2 ^ (exponent - 2).toNat, 1⟩

/-- The fraction counted in units of `10 ^ unit`. -/
def Fraction.inUnits (fraction : Fraction) (unit : Int) : Fraction :=
  if unit < 0 then ⟨fraction.numerator * 10 ^ unit.natAbs, fraction.denominator⟩
  else ⟨fraction.numerator, fraction.denominator * 10 ^ unit.natAbs⟩

namespace Binary

def value (binary : Binary) : Fraction := quarters (4 * binary.mantissa) binary.exponent

/-- The ends of the interval of reals that round to the number. -/
def low (binary : Binary) : Fraction :=
  quarters (4 * binary.mantissa - if binary.least then 1 else 2) binary.exponent

def high (binary : Binary) : Fraction := quarters (4 * binary.mantissa + 2) binary.exponent

/-- Whether so many units of `10 ^ unit` read back as the number. The ends do if the mantissa
is even. -/
def readsBack (binary : Binary) (unit : Int) (count : Nat) : Bool :=
  let low := binary.low.inUnits unit
  let high := binary.high.inUnits unit
  let afterLow := compare low.numerator (count * low.denominator)
  let beforeHigh := compare (count * high.denominator) high.numerator
  if binary.mantissa % 2 = 0 then afterLow.isLE && beforeHigh.isLE
  else afterLow == .lt && beforeHigh == .lt

/-- The nearest count of units that reads back, of the two counts around the number. -/
def nearest? (binary : Binary) (unit : Int) : Option Nat :=
  let value := binary.value.inUnits unit
  let below := value.numerator / value.denominator
  let rest := 2 * (value.numerator % value.denominator)
  let preferAbove := value.denominator < rest || rest == value.denominator && below % 2 == 1
  let order := if preferAbove then [below + 1, below] else [below, below + 1]
  order.find? (binary.readsBack unit)

/-- The least power of ten above the number. -/
def magnitude (binary : Binary) : Int :=
  let value := binary.value
  if value.denominator ≤ value.numerator then
    (Text.decimal (value.numerator / value.denominator)).length
  else
    let zeros := (Text.decimal (value.denominator / value.numerator)).length
    let scaled := value.inUnits (-(zeros : Int))
    -- the quotient has one digit more than zeros or as many
    if scaled.denominator ≤ scaled.numerator then
      (Text.decimal (scaled.numerator / scaled.denominator)).length - zeros
    else 1 - (zeros : Int)

/-- Seventeen digits always suffice. -/
def shortestFrom (binary : Binary) (magnitude : Int) : Nat → Nat → Decimal
  | 0, _ => ⟨binary.mantissa, binary.exponent⟩
  | fuel + 1, digits =>
    let unit := magnitude - digits
    match binary.nearest? unit with
    | some count => ⟨count, unit⟩
    | none => shortestFrom binary magnitude fuel (digits + 1)

def shortest (binary : Binary) : Decimal := shortestFrom binary binary.magnitude 18 1

end Binary

/-- Moves the zeros at the end of the digits into the exponent. -/
def dropZeros : Nat → Decimal → Decimal
  | 0, decimal => decimal
  | fuel + 1, decimal =>
    if decimal.digits ≠ 0 ∧ decimal.digits % 10 = 0 then
      dropZeros fuel ⟨decimal.digits / 10, decimal.exponent + 1⟩
    else decimal

/-- What the bits of a floating point number say. -/
inductive Reading where
  | notANumber
  | infinite (negative : Bool)
  | zero (negative : Bool)
  | finite (negative : Bool) (magnitude : Binary)
deriving DecidableEq, Repr

def Reading.ofBits (bits : Nat) : Reading :=
  let negative := bits / 2 ^ (63 : Nat) % 2 == 1
  let biased : Nat := bits / 2 ^ (52 : Nat) % 2 ^ (11 : Nat)
  let fraction : Nat := bits % 2 ^ (52 : Nat)
  if biased = 2047 then if fraction = 0 then infinite negative else notANumber
  else if biased = 0 then
    if fraction = 0 then zero negative else finite negative ⟨fraction, -1074, false⟩
  else finite negative ⟨2 ^ (52 : Nat) + fraction, (biased : Int) - 1075, fraction == 0 && 1 < biased⟩

def Reading.ofFloat (value : Float) : Reading := ofBits value.toBits.toNat

/-- The shortest decimal that reads back as a positive number. -/
def shortest (binary : Binary) : Decimal := dropZeros 20 binary.shortest

end Stencil.Decimal

/-!
Floating point numbers rounded to a given number of decimals or of digits. A half goes to the even
neighbour.
-/

namespace Stencil.Decimal

attribute [local instance (2000)] instPowNat

/-- The nearest whole number to a fraction. -/
def Fraction.nearest (fraction : Fraction) : Nat :=
  let below := fraction.numerator / fraction.denominator
  let rest := 2 * (fraction.numerator % fraction.denominator)
  if fraction.denominator < rest ∨ rest = fraction.denominator ∧ below % 2 = 1 then below + 1
  else below

theorem Fraction.nearest_whole (count denominator : Nat) (positive : 0 < denominator) :
    Fraction.nearest ⟨count * denominator, denominator⟩ = count := by
  simp [Fraction.nearest, Nat.mul_div_cancel _ positive]
  omega

theorem Fraction.two_mul_nearest_le (fraction : Fraction) :
    2 * (fraction.nearest * fraction.denominator) ≤
      2 * fraction.numerator + fraction.denominator := by
  have whole := Nat.div_add_mod fraction.numerator fraction.denominator
  have product := Nat.mul_comm fraction.denominator (fraction.numerator / fraction.denominator)
  unfold Fraction.nearest
  dsimp only
  split
  next => rw [Nat.add_mul]; omega
  next => omega

/-- Digits and the power of ten of the first of them. -/
structure Rounded where
  digits : Text
  exponent : Int
deriving DecidableEq, Repr

/-- Whether the number is zero or which positive number it is. -/
abbrev Amount := Option Binary

/-- The nearest number of so many digits. -/
def Amount.toDigits (amount : Amount) (count : Nat) : Rounded :=
  match amount with
  | none => ⟨List.replicate count '0', 0⟩
  | some binary =>
    let exponent := binary.magnitude - 1
    let units := (binary.value.inUnits (exponent - (count - 1 : Nat))).nearest
    -- Rounding up may have added a digit.
    if units = 10 ^ count then ⟨Text.padded count (units / 10), exponent + 1⟩
    else ⟨Text.padded count units, exponent⟩

def pointed (whole behind : Text) (always : Bool) : Text :=
  if behind.isEmpty && !always then whole else whole ++ '.' :: behind

/-- The number with so many decimals. -/
def Amount.fixed (amount : Amount) (places : Nat) (alwaysPoint : Bool) : Text :=
  let units := match amount with
    | none => 0
    | some binary => (binary.value.inUnits (-(places : Int))).nearest
  let digits := Text.padded (places + 1) units
  let whole := digits.length - places
  pointed (digits.take whole) (digits.drop whole) alwaysPoint

/-- The power of ten is written with a sign and two digits or more. -/
def exponentText (exponent : Int) : Text :=
  'e' :: (if exponent < 0 then '-' else '+') :: Text.padded 2 exponent.natAbs

def Amount.scientific (amount : Amount) (places : Nat) (alwaysPoint : Bool) : Text :=
  let rounded := amount.toDigits (places + 1)
  pointed (rounded.digits.take 1) (rounded.digits.drop 1) alwaysPoint ++
    exponentText rounded.exponent

/-- Powers of ten from here on are written positionally as long as the digits reach. -/
def generalFrom : Int := -4

/-- The number in so many digits. Unless all are to be kept, zeros at the end of the decimals are
left out. -/
def Amount.general (amount : Amount) (count : Nat) (keepAll : Bool) : Text :=
  let rounded := amount.toDigits (max 1 count)
  let cut (text : Text) := if keepAll then text else Text.dropRightWhile (· == '0') text
  if generalFrom ≤ rounded.exponent ∧ rounded.exponent < max 1 count then
    if 0 ≤ rounded.exponent then
      let whole := rounded.exponent.toNat + 1
      pointed (rounded.digits.take whole) (cut (rounded.digits.drop whole)) keepAll
    else
      let zeros := List.replicate (rounded.exponent.natAbs - 1) '0'
      pointed ['0'] (cut (zeros ++ rounded.digits)) keepAll
  else
    pointed (rounded.digits.take 1) (cut (rounded.digits.drop 1)) keepAll ++
      exponentText rounded.exponent

end Stencil.Decimal
