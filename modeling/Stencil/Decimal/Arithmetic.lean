import Stencil.Datum.Basic

/-!
Division of floating point numbers toward the floor, with the remainder that goes with it. The
remainder is exact.
-/

set_option autoImplicit false

namespace Stencil.Decimal

-- Powers are those of the core library, also where an import knows others.
attribute [local instance (2000)] instPowNat

/-- A finite number as an integer times a power of two. -/
def scaled? (value : Float) : Option (Int × Int) :=
  match Reading.ofFloat value with
  | .zero _ => some (0, 0)
  | .finite negative binary =>
    some (if negative then -binary.mantissa else binary.mantissa, binary.exponent)
  | _ => none

def isNegative (value : Float) : Bool :=
  match Reading.ofFloat value with
  | .infinite negative => negative
  | .zero negative => negative
  | .finite negative _ => negative
  | .notANumber => false

/-- A zero with the sign of the given number. -/
def zeroLike (value : Float) : Float := if isNegative value then -0.0 else 0.0

/-- The exact remainder of a division that cuts the quotient off. -/
def cutRemainder (left right : Float) : Float :=
  match scaled? left, scaled? right with
  | some (a, p), some (b, q) =>
    let unit := min p q
    let rest := Int.tmod (a * 2 ^ (p - unit).toNat) (b * 2 ^ (q - unit).toNat)
    if rest = 0 then zeroLike left else (Float.ofInt rest).scaleB unit
  | _, _ => if right.isInf && !left.isInf then left else 0.0 / 0.0

/-- The quotient toward the floor and the remainder, for a divisor other than zero. -/
def floorDivMod (left right : Float) : Float × Float :=
  let cut := cutRemainder left right
  let quotient := (left - cut) / right
  let adjusted : Float × Float :=
    if cut != 0.0 then
      if (right < 0.0) != (cut < 0.0) then (quotient - 1.0, cut + right) else (quotient, cut)
    else (quotient, zeroLike right)
  let floor := adjusted.1.floor
  let whole :=
    if adjusted.1 != 0.0 then if adjusted.1 - floor > 0.5 then floor + 1.0 else floor
    else zeroLike (left / right)
  (whole, adjusted.2)

/-- The integer part of a finite number. -/
def truncate? (value : Float) : Option Int :=
  (scaled? value).map fun (mantissa, exponent) =>
    if exponent < 0 then Int.tdiv mantissa (2 ^ exponent.natAbs)
    else mantissa * 2 ^ exponent.toNat

end Stencil.Decimal
