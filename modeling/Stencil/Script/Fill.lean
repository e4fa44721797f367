import Stencil.Script.Field
import Stencil.Script.Part

/-!
Filling the fields of a text with values: with those of a tuple one by one, with any other value
as the only one. Fields with a key take theirs from a dictionary.
-/

set_option autoImplicit false

namespace Stencil.Script.Fill

/-- The values that no field has taken yet, and what keys are looked up in. -/
structure Supply where
  waiting : List Value
  keyed : Option Value

def isKeyed : Value → Bool
  | .list _ => true
  | .dict _ => true
  | .range _ _ _ => true
  | .datum (.bytes _) => true
  | _ => false

def Supply.of : Value → Supply
  | .tuple items => ⟨items, none⟩
  | value => ⟨[value], if isKeyed value then some value else none⟩

def Supply.next (supply : Supply) : Run (Value × Supply) := do
  match supply.waiting with
  | value :: rest => return (value, { supply with waiting := rest })
  | [] => Run.fail .wrongType

/-- What a key finds is the only value then. -/
def Supply.lookUp (supply : Supply) (key : Field.Key) : Run Supply := do
  match key, supply.keyed with
  | .absent, _ => return supply
  | _, none => Run.fail .wrongType
  | .unclosed, some _ => Run.fail .wrongValue
  | .named key, some container => do
    return { supply with waiting := [← Value.subscript container (.text key)] }

/-- A dictionary may hold more than the fields ask for, anything else may not. -/
def Supply.finish (supply : Supply) : Run Unit := do
  if !supply.waiting.isEmpty && supply.keyed.isNone then Run.fail .wrongType

def Supply.extent (supply : Supply) : Field.Extent → Run (Option Int × Supply)
  | .absent => return (none, supply)
  | .fixed count => return (some count, supply)
  | .supplied => do
    let (value, supply) ← supply.next
    match value.integer? with
    | some count => return (some count, supply)
    | none => Run.fail .wrongType

def shortened (precision : Option Int) (text : Text) : Text :=
  match precision with
  | some count => text.take count.toNat
  | none => text

/-- The integer of a number; one with decimals loses them. -/
def wholeOf (value : Value) : Run Int := do
  match value with
  | .real number =>
    match Decimal.truncate? number with
    | some whole => return whole
    | none => Run.fail (if number.isInf then .overflow else .wrongValue)
  | other =>
    match other.integer? with
    | some whole => return whole
    | none => Run.fail .wrongType

def integerOnly (value : Value) : Run Int := do
  match value.integer? with
  | some whole => return whole
  | none => Run.fail .wrongType

def characterOf (value : Value) : Run Char := do
  match value with
  | .text [c] => return c
  | .text _ => Run.fail .wrongType
  | other => do
    let code ← integerOnly other
    if code < 0 ∨ 0x10FFFF < code then Run.fail .overflow
    else if h : code.toNat.isValidChar then return Char.ofNatAux code.toNat h
    else Run.fail .unsupported

def piece (letter : Char) (flags : Field.Flags) (precision : Option Int) (value : Value) :
    Run Field.Piece := do
  let places := (precision.map Int.toNat).getD 0
  let decimals := (precision.map Int.toNat).getD Field.standardPlaces
  match letter with
  | 's' => return .plain (shortened precision (← value.display))
  | 'r' => return .plain (shortened precision (← value.shown))
  | 'a' => return .plain (shortened precision (Field.asciiText (← value.shown)))
  | 'c' => return .plain [← characterOf value]
  | 'd' | 'i' | 'u' => do
    let whole ← wholeOf value
    if isTooLong whole then Run.fail .wrongValue
    return Field.integerPiece letter flags places whole
  | 'o' | 'x' | 'X' => return Field.integerPiece letter flags places (← integerOnly value)
  | 'e' | 'E' | 'f' | 'F' | 'g' | 'G' =>
    return Field.realPiece letter flags decimals (← value.toReal)
  | _ => Run.fail .wrongValue

/-- A width below zero is one for the left side. -/
def fillField (field : Field) (supply : Supply) : Run (Text × Supply) := do
  let supply ← supply.lookUp field.key
  let (width, supply) ← supply.extent field.width
  let (precision, supply) ← supply.extent field.precision
  let width := width.getD 0
  let flags := { field.flags with left := field.flags.left || width < 0 }
  match field.letter with
  | none => Run.fail .wrongValue
  | some '%' => return (['%'], supply)
  | some letter => do
    -- The width and the precision have taken their values before.
    let (value, supply) ← supply.next
    let written ← piece letter flags precision value
    return (written.layOut flags width.natAbs, supply)

/-- A field takes one character at least, so the length of the text bounds their number. -/
def fillAll : Nat → Supply → Text → Run Text
  | 0, supply, _ => do
    supply.finish
    return []
  | _ + 1, supply, [] => do
    supply.finish
    return []
  | fuel + 1, supply, '%' :: rest => do
    let (field, after) := Field.scan rest
    let (written, supply) ← fillField field supply
    return written ++ (← fillAll fuel supply after)
  | fuel + 1, supply, c :: rest => return c :: (← fillAll fuel supply rest)

def run (pattern : Text) (values : Value) : Run Text :=
  fillAll (pattern.length + 1) (Supply.of values) pattern

end Stencil.Script.Fill
