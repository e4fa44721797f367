import Stencil.Script.Value

/-!
Data as values of running code and back. Lists and dictionaries get places of their own.
-/

set_option autoImplicit false

namespace Stencil.Script

-- Powers are those of the core library, also where an import knows others.
attribute [local instance (2000)] instPowNat

mutual

def Value.ofDatum : Datum → Run Value
  | .none => return .none
  | .bool value => return .bool value
  | .integer value => return .integer value
  | .real value => return .real value
  | .text value => return .text value
  | .points value => return .datum (.points value)
  | .list items => do Run.newList (← valuesOf items)
  | .tuple items => do return .tuple (← valuesOf items)
  | .dict entries => do return .dict (← Run.allocate (.dict (← entriesOf entries)))
  | other => return .datum other

def valuesOf : List Datum → Run (List Value)
  | [] => return []
  | item :: rest => do
    let first ← Value.ofDatum item
    return first :: (← valuesOf rest)

def entriesOf : List (Datum × Datum) → Run (List (Value × Value))
  | [] => return []
  | (key, value) :: rest => do
    let key ← Value.ofDatum key
    let value ← Value.ofDatum value
    return (key, value) :: (← entriesOf rest)

end

def rangeLength (start stop step : Int) : Nat :=
  if 0 < step then ((stop - start + step - 1).fdiv step).toNat
  else ((start - stop - step - 1).fdiv (-step)).toNat

/-- Whether a range has an integer. -/
def isInRange (start stop step number : Int) : Bool :=
  let passed := if 0 < step then number - start else start - number
  let left := if 0 < step then stop - number else number - stop
  0 ≤ passed && 0 < left && passed % step.natAbs == 0

/-- Whether two ranges have the same items. -/
def sameRange (left right : Int × Int × Int) : Bool :=
  let count := rangeLength left.1 left.2.1 left.2.2
  count == rangeLength right.1 right.2.1 right.2.2 &&
    (count == 0 || left.1 == right.1 && (count == 1 || left.2.2 == right.2.2))

def rangeItems (start stop step : Int) : List Int :=
  (List.range (rangeLength start stop step)).map fun (index : Nat) => start + step * index

/-- How deep data may be nested to be shown or compared. -/
def maximalNesting : Nat := 980

/-- Whether an integer has too many digits to be written out. -/
def isTooLong (value : Int) : Bool := 10 ^ maximalDigits ≤ value.natAbs

/-- The datum that a value is at the moment, as far as it can be written out. The places of what it
is a part of are given. -/
def Value.snapshot : Nat → List Nat → Value → Run Datum
  | 0, _, _ => Run.fail .tooDeep
  | depth + 1, outer, value => do
    match value with
    | .none => return .none
    | .bool value => return .bool value
    | .integer value => if isTooLong value then Run.fail .wrongValue else return .integer value
    | .real value => return .real value
    | .text value => return .text value
    | .tuple items => return .tuple (← items.mapM (snapshot depth outer))
    | .list place => do
      if outer.contains place then return .around true
      return .list (← (← Run.listItems place).mapM (snapshot depth (place :: outer)))
    | .dict place => do
      if outer.contains place then return .around false
      let entries ← (← Run.dictEntries place).mapM fun entry => do
        let key ← snapshot depth (place :: outer) entry.1
        return (key, ← snapshot depth (place :: outer) entry.2)
      return .dict entries
    | .datum value => return value
    | _ => Run.fail .unsupported

def Value.current (value : Value) : Run Datum := value.snapshot maximalNesting []

/-- The points of a value that is a text or would be one without surrogates. -/
def Value.points? : Value → Option Points
  | .text value => some (Points.ofText value)
  | .datum (.points value) => some value
  | _ => Option.none

def Value.ofPoints (value : Points) : Value :=
  match value.text? with
  | some found => .text found
  | Option.none => .datum (.points value)

/-- A namespace shows its attributes. -/
def namespaceText (attributes : List (Text × Datum)) : Text :=
  "namespace(".toList ++ Text.join ", ".toList
    (attributes.map fun entry => entry.1 ++ '=' :: entry.2.shown) ++ [')']

/-- How functions and types that code finds are shown. That of a library is shown by where it is. -/
def Builtin.display? : Builtin → Option Text
  | .range => some "<class 'range'>".toList
  | .length => some "<built-in function len>".toList
  | .integer => some "<class 'int'>".toList
  | .string => some "<class 'str'>".toList
  | .escape => none

/-- The text of a value. -/
def Value.display (value : Value) : Run Text := do
  match value with
  | .range start stop 1 =>
    return "range(".toList ++ Text.signed start ++ ", ".toList ++ Text.signed stop ++ [')']
  | .range start stop step =>
    return "range(".toList ++ Text.signed start ++ ", ".toList ++ Text.signed stop ++
      ", ".toList ++ Text.signed step ++ [')']
  | .page place => do
    let page ← Run.pageAt place
    match page.kind with
    | .namespace => do
      let attributes ← page.attributes.mapM fun entry => do return (entry.1, ← entry.2.current)
      return namespaceText attributes
    | _ => Run.fail .unsupported
  | .builtin found =>
    match found.display? with
    | some shown => return shown
    | Option.none => Run.fail .unsupported
  | other => return (← other.current).display

/-- The text of a value, surrogates included. -/
def Value.displayPoints (value : Value) : Run Points := do
  match value.points? with
  | some points => return points
  | Option.none => return Points.ofText (← value.display)

/-- The text of a value as it is within other values. -/
def Value.shown (value : Value) : Run Text := do
  match value with
  | .range _ _ _ => value.display
  | .page _ => value.display
  | .builtin _ => value.display
  | other => return (← other.current).shown

end Stencil.Script
