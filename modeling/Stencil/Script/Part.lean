import Stencil.Script.Comparison

/-!
The parts of sequences and dictionaries, by index and by key.
-/

set_option autoImplicit false

namespace Stencil.Script

namespace Value

/-- The position that an index means; one below zero counts from the end. -/
def position? (length : Nat) (index : Int) : Option Nat :=
  let counted := if index < 0 then index + length else index
  if 0 ≤ counted ∧ counted < length then some counted.toNat else Option.none

def itemAt (items : List Value) (index : Value) : Run Value := do
  match index.integer? with
  | Option.none => Run.fail .wrongType
  | some number =>
    match (position? items.length number).bind fun spot => items[spot]? with
    | some found => return found
    | Option.none => Run.fail .indexOutOfRange

def subscript (object index : Value) : Run Value := do
  match object with
  | dict place => do
    if !index.isKey then Run.fail .wrongType
    match ← lookupWith (equal index) (← Run.dictEntries place) with
    | some found => return found
    | Option.none => Run.fail .keyMissing
  | text _ => itemAt (← object.elements) index
  | datum (.points _) => itemAt (← object.elements) index
  | datum (.bytes _) => itemAt (← object.elements) index
  | tuple items => itemAt items index
  | list place => itemAt (← Run.listItems place) index
  | range start stop step =>
    match index.integer? with
    | Option.none => Run.fail .wrongType
    | some number =>
      match position? (rangeLength start stop step) number with
      | some spot => return integer (start + step * spot)
      | Option.none => Run.fail .indexOutOfRange
  | _ => Run.fail .wrongType

/-- Binds a key of a dictionary, in its place if it is bound already. -/
def insertKey (key value : Value) : List (Value × Value) → Run (List (Value × Value))
  | [] => return [(key, value)]
  | (other, held) :: rest => do
    if ← equal key other then return (other, value) :: rest
    else return (other, held) :: (← insertKey key value rest)

def storeItem (object index value : Value) : Run Unit := do
  match object with
  | dict place => do
    if !index.isKey then Run.fail .wrongType
    Run.replace place (.dict (← insertKey index value (← Run.dictEntries place)))
  | list place => do
    let items ← Run.listItems place
    match index.integer? with
    | Option.none => Run.fail .wrongType
    | some number =>
      match position? items.length number with
      | some spot => Run.replace place (.list (items.set spot value))
      | Option.none => Run.fail .indexOutOfRange
  | _ => Run.fail .wrongType

def removeItem (object index : Value) : Run Unit := do
  match object with
  | dict place => do
    if !index.isKey then Run.fail .wrongType
    let entries ← Run.dictEntries place
    let kept ← entries.filterM fun entry => do return !(← equal index entry.1)
    if kept.length = entries.length then Run.fail .keyMissing
    else Run.replace place (.dict kept)
  | list place => do
    let items ← Run.listItems place
    match index.integer? with
    | Option.none => Run.fail .wrongType
    | some number =>
      match position? items.length number with
      | some spot => Run.replace place (.list (items.eraseIdx spot))
      | Option.none => Run.fail .indexOutOfRange
  | _ => Run.fail .wrongType

/-- The positions between two bounds in a sequence, or every so many of them, as a range. -/
def sliceRange (length : Nat) (lower upper step : Option Int) : Option (Int × Int × Int) :=
  let step := step.getD 1
  if step = 0 then Option.none
  else
    let clamp (low high : Int) (value : Int) : Int :=
      max low (min high (if value < 0 then value + length else value))
    if 0 < step then
      let start := (lower.map (clamp 0 length)).getD 0
      let stop := (upper.map (clamp 0 length)).getD length
      some (start, stop, step)
    else
      let start := (lower.map (clamp (-1) (length - 1))).getD (length - 1)
      let stop := (upper.map (clamp (-1) (length - 1))).getD (-1)
      some (start, stop, step)

def sliceBound (value : Value) : Run (Option Int) := do
  match value with
  | none => return Option.none
  | other =>
    match other.integer? with
    | some number => return some number
    | Option.none => Run.fail .wrongType

def slice (object lower upper step : Value) : Run Value := do
  let lower ← sliceBound lower
  let upper ← sliceBound upper
  let step ← sliceBound step
  let pick {α : Type} (items : List α) : Run (List α) :=
    match sliceRange items.length lower upper step with
    | some (start, stop, step) =>
      pure ((rangeItems start stop step).filterMap fun spot => items[spot.toNat]?)
    | Option.none => Run.fail .wrongValue
  match object with
  | text value => return text (← pick value)
  | datum (.points value) => return ofPoints (← pick value)
  | tuple items => return tuple (← pick items)
  | list place => Run.newList (← pick (← Run.listItems place))
  | datum (.bytes value) => return datum (.bytes (← pick value))
  | range start stop stride =>
    match sliceRange (rangeLength start stop stride) lower upper step with
    | some (first, last, step) =>
      return range (start + stride * first) (start + stride * last) (stride * step)
    | Option.none => Run.fail .wrongValue
  | _ => Run.fail .wrongType

end Value

end Stencil.Script
