import Stencil.Decimal.Arithmetic
import Stencil.Script.Convert

/-!
Truth, equality, order and membership of values.
-/

set_option autoImplicit false

namespace Stencil.Script

namespace Value

/-- The integer that a truth value or an integer counts as. -/
def integer? : Value → Option Int
  | bool value => some (if value then 1 else 0)
  | integer value => some value
  | _ => Option.none

/-- The floating point number next to a number. There is none next to integers that are too
large. -/
def toReal (value : Value) : Run Float := do
  match value with
  | real value => return value
  | other =>
    match other.integer? with
    | some number =>
      let found := Float.ofInt number
      if found.isInf then Run.fail .overflow else return found
    | Option.none => Run.fail .wrongType

def isReal : Value → Bool
  | real _ => true
  | _ => false

def truthy (value : Value) : Run Bool := do
  match value with
  | none => return false
  | bool value => return value
  | integer value => return value != 0
  | real value => return value != 0.0
  | text value => return !value.isEmpty
  | tuple items => return !items.isEmpty
  | range start stop step => return rangeLength start stop step != 0
  | list place => return !(← Run.listItems place).isEmpty
  | dict place => return !(← Run.dictEntries place).isEmpty
  | datum value => return value.truthy
  | _ => return true

/-- The values that a value is a sequence of. -/
def elements (value : Value) : Run (List Value) := do
  match value with
  | text value => return value.map fun c => text [c]
  | tuple items => return items
  | range start stop step => return (rangeItems start stop step).map integer
  | list place => Run.listItems place
  | dict place => return (← Run.dictEntries place).map (·.1)
  | datum (.set items) => valuesOf items
  | datum (.bytes bytes) => return bytes.map fun byte => integer byte.toNat
  | datum (.points value) => return value.map fun point => ofPoints [point]
  | _ => Run.fail .wrongType

/-- Compares two numbers; there is no order with what is not a number. -/
def compareNumbers (left right : Value) : Option Ordering :=
  match left.integer?, right.integer?, left, right with
  | some a, some b, _, _ => some (compare a b)
  | some a, _, _, real b => Decimal.compareInteger a b
  | _, some b, real a, _ => (Decimal.compareInteger b a).map Ordering.swap
  | _, _, real a, real b =>
    if a < b then some .lt else if b < a then some .gt else if a == b then some .eq
    else Option.none
  | _, _, _, _ => Option.none

def isNumber (value : Value) : Bool := value.integer?.isSome || value.isReal

def allM₂ (test : Value → Value → Run Bool) : List Value → List Value → Run Bool
  | [], [] => return true
  | a :: left, b :: right => do
    if ← test a b then allM₂ test left right else return false
  | _, _ => return false

def anyM (test : Value → Run Bool) : List Value → Run Bool
  | [] => return false
  | item :: rest => do
    if ← test item then return true else anyM test rest

def lookupWith (test : Value → Run Bool) : List (Value × Value) → Run (Option Value)
  | [] => return Option.none
  | (key, value) :: rest => do
    if ← test key then return some value else lookupWith test rest

/-- Whether two values are equal. -/
def same : Nat → Value → Value → Run Bool
  | 0, _, _ => Run.fail .tooDeep
  | depth + 1, left, right => do
    match left, right with
    | none, none => return true
    | text a, text b => return a == b
    | tuple a, tuple b => allM₂ (same depth) a b
    | list a, list b =>
      -- A list is equal to itself even if it holds itself.
      if a = b then return true
      else allM₂ (same depth) (← Run.listItems a) (← Run.listItems b)
    | dict a, dict b => do
      let entries ← Run.dictEntries a
      let others ← Run.dictEntries b
      if entries.length != others.length then return false
      else
        let missing ← entries.filterM fun entry => do
          match ← lookupWith (same depth entry.1) others with
          | some value => return !(← same depth entry.2 value)
          | Option.none => return true
        return missing.isEmpty
    | range a b c, range d e f => return sameRange (a, b, c) (d, e, f)
    | function a, function b => return a == b
    | builtin a, builtin b => return a == b
    | method _ _, method _ _ => Run.fail .unsupported
    | page a, page b =>
      if a = b then return true
      else do
        let one ← Run.pageAt a
        let other ← Run.pageAt b
        if one.kind = .namespace ∧ other.kind = .namespace ∧
            one.attributes.length = other.attributes.length then
          one.attributes.allM fun entry => do
            match findName? entry.1 other.attributes with
            | some value => same depth entry.2 value
            | Option.none => return false
        else return false
    | pageMethod a, pageMethod b => return a == b
    | datum (.set a), datum (.set b) =>
      return a.length == b.length && a.all fun item => b.any item.sameKey
    | datum a, datum b => return a.sameKey b
    | a, b => return compareNumbers a b == some .eq

def equal (left right : Value) : Run Bool := same maximalNesting left right

/-- Orders two values of kinds that have an order. -/
def order : Nat → Value → Value → Run (Option Ordering)
  | 0, _, _ => Run.fail .tooDeep
  | depth + 1, left, right => do
    match left, right with
    | text a, text b =>
      return some (if a == b then .eq else if Text.precedes a b then .lt else .gt)
    | tuple a, tuple b => orderItems (order depth) a b
    | list a, list b => orderItems (order depth) (← Run.listItems a) (← Run.listItems b)
    | datum (.bytes a), datum (.bytes b) => return some (compare a b)
    | datum (.date a), datum (.date b) => return some (a.compare b)
    | datum (.moment a), datum (.moment b) =>
      match a.compare? b with
      | some found => return some found
      | Option.none => Run.fail .wrongType
    | a, b =>
      match a.points?, b.points? with
      | some left, some right =>
        return some (if left == right then .eq else if left.precedes right then .lt else .gt)
      | _, _ =>
        if isNumber a && isNumber b then return compareNumbers a b else Run.fail .wrongType
where
  orderItems (item : Value → Value → Run (Option Ordering)) :
      List Value → List Value → Run (Option Ordering)
    | [], [] => return some .eq
    | [], _ :: _ => return some .lt
    | _ :: _, [] => return some .gt
    | a :: left, b :: right => do
      if ← equal a b then orderItems item left right else item a b

def ordered (test : Ordering → Bool) (left right : Value) : Run Bool := do
  return (← order maximalNesting left right).any test

def isPart {α : Type} [BEq α] (part : List α) : List α → Bool
  | [] => part.isEmpty
  | first :: rest => part.isPrefixOf (first :: rest) || isPart part rest

/-- Whether a value may be the key of a dictionary. -/
def isKey : Value → Bool
  | list _ => false
  | dict _ => false
  | tuple items => areKeys items
  | datum value => value.isHashable
  | _ => true
where
  areKeys : List Value → Bool
    | [] => true
    | item :: rest => isKey item && areKeys rest

def isSet : Value → Bool
  | datum (.set _) => true
  | _ => false

def contains (container item : Value) : Run Bool := do
  match container, item with
  | text whole, text part => return isPart part whole
  | text _, datum (.points _) => return false
  | text _, _ => Run.fail .wrongType
  | datum (.points whole), part =>
    match part.points? with
    | some found => return isPart found whole
    | Option.none => Run.fail .wrongType
  | dict place, key => do
    if !key.isKey then Run.fail .wrongType
    anyM (equal key) ((← Run.dictEntries place).map (·.1))
  | range start stop step, integer number => return isInRange start stop step number
  | range start stop step, bool value =>
    return isInRange start stop step (if value then 1 else 0)
  | datum (.bytes whole), datum (.bytes part) => return isPart part whole
  | datum (.bytes whole), part =>
    match part.integer? with
    | some number =>
      if number < 0 ∨ 255 < number then Run.fail .wrongValue
      else return whole.contains (UInt8.ofNat number.toNat)
    | Option.none => Run.fail .wrongType
  | other, item => do
    -- The members of a set are found like keys.
    if other.isSet && !(item.isKey || item.isSet) then Run.fail .wrongType
    anyM (equal item) (← other.elements)

/-- Whether two values are one and the same. -/
def identical (left right : Value) : Run Bool := do
  match left, right with
  | list a, list b => return a == b
  | dict a, dict b => return a == b
  | none, none => return true
  | bool a, bool b => return a == b
  | none, _ => return false
  | _, none => return false
  | bool _, _ => return false
  | _, bool _ => return false
  | page a, page b => return a == b
  | _, _ => Run.fail .unsupported

def compareBy (op : Comparison) (left right : Value) : Run Bool := do
  match op with
  | .equal => equal left right
  | .notEqual => return !(← equal left right)
  | .less => ordered (· == .lt) left right
  | .lessEqual => ordered (· != .gt) left right
  | .greater => ordered (· == .gt) left right
  | .greaterEqual => ordered (· != .lt) left right
  | .is => identical left right
  | .isNot => return !(← identical left right)
  | .isIn => contains right left
  | .notIn => return !(← contains right left)

end Value

end Stencil.Script
