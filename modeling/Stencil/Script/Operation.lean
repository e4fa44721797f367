import Stencil.Script.Fill

/-!
Arithmetic on values.
-/

set_option autoImplicit false

namespace Stencil.Script

-- Powers are those of the core library, also where an import knows others.
attribute [local instance (2000)] instPowNat

namespace Value

def isZero (value : Value) : Bool :=
  match value with
  | real value => value == 0.0
  | other => other.integer? == some 0

def integers (op : BinaryOp) (a b : Int) : Run Value := do
  match op with
  | .add => return integer (a + b)
  | .subtract => return integer (a - b)
  | .multiply => return integer (a * b)
  | .floorDivide => if b = 0 then Run.fail .divisionByZero else return integer (a.fdiv b)
  | .modulo => if b = 0 then Run.fail .divisionByZero else return integer (a.fmod b)
  | .divide =>
    if b = 0 then Run.fail .divisionByZero else return real (Float.ofInt a / Float.ofInt b)
  | .power => if b < 0 then Run.fail .unsupported else return integer (a ^ b.toNat)
  | .matrixMultiply => Run.fail .wrongType
  | _ => Run.fail .unsupported

def reals (op : BinaryOp) (a b : Float) : Run Value := do
  match op with
  | .add => return real (a + b)
  | .subtract => return real (a - b)
  | .multiply => return real (a * b)
  | .divide => if b == 0.0 then Run.fail .divisionByZero else return real (a / b)
  | .floorDivide =>
    if b == 0.0 then Run.fail .divisionByZero else return real (Decimal.floorDivMod a b).1
  | .modulo =>
    if b == 0.0 then Run.fail .divisionByZero else return real (Decimal.floorDivMod a b).2
  | .power => Run.fail .unsupported
  | _ => Run.fail .wrongType

/-- How many items there is room for. -/
def room : Nat := 2 ^ (40 : Nat)

/-- Items repeated as often as an integer says. How often that is must be a length by itself. -/
def repeated {α : Type} (items : List α) (count : Int) : Run (List α) := do
  if maximalLength < count.natAbs then Run.fail .overflow
  if items.isEmpty || count ≤ 0 then return []
  if room < items.length * count.toNat then Run.fail .tooLarge
  return (List.replicate count.toNat items).flatten

/-- A text is never too long to be one. -/
def repeatedText {α : Type} (value : List α) (count : Int) : Run (List α) := do
  if maximalLength < value.length * count.toNat then Run.fail .overflow
  repeated value count

/-- A sequence repeated as often as an integer says. -/
def repeatedValue (sequence : Value) (count : Int) : Run Value := do
  match sequence with
  | text value => return text (← repeatedText value count)
  | datum (.points value) => return ofPoints (← repeatedText value count)
  | datum (.bytes value) => return datum (.bytes (← repeatedText value count))
  | tuple items => return tuple (← repeated items count)
  | list place => Run.newList (← repeated (← Run.listItems place) count)
  | _ => Run.fail .wrongType

/-- An operator on values of which one at least is neither an integer nor a truth value. -/
def mixed (op : BinaryOp) (left right : Value) : Run Value := do
  if isNumber left && isNumber right then
    let a ← left.toReal
    reals op a (← right.toReal)
  else
    match op, left.integer?, right.integer? with
    | .multiply, some count, _ => repeatedValue right count
    | .multiply, _, some count => repeatedValue left count
    | _, _, _ => Run.fail .wrongType

def joined (left right : Value) : Run Value := do
  match left, right with
  | text a, text b => return text (a ++ b)
  | tuple a, tuple b => return tuple (a ++ b)
  | list a, list b => Run.newList ((← Run.listItems a) ++ (← Run.listItems b))
  | datum (.bytes a), datum (.bytes b) => return datum (.bytes (a ++ b))
  | _, _ =>
    match left.points?, right.points? with
    | some a, some b => return ofPoints (a ++ b)
    | _, _ => mixed .add left right

def binary (op : BinaryOp) (left right : Value) : Run Value := do
  match left.integer?, right.integer? with
  | some a, some b => integers op a b
  | _, _ =>
    match op, left with
    | .add, _ => joined left right
    | .modulo, text pattern => return text (← Fill.run pattern right)
    | _, _ => mixed op left right

/-- An operator that changes a list in its place. -/
def augmented (op : BinaryOp) (left right : Value) : Run Value := do
  match op, left with
  | .add, list place => do
    let added ← right.elements
    Run.replace place (.list ((← Run.listItems place) ++ added))
    return left
  | .multiply, list place => do
    match right.integer? with
    | some count => do
      Run.replace place (.list (← repeated (← Run.listItems place) count))
      return left
    | Option.none => Run.fail .wrongType
  | _, _ => binary op left right

def unary (op : UnaryOp) (operand : Value) : Run Value := do
  match op, operand with
  | .not, value => return bool !(← value.truthy)
  | .minus, real value => return real (-value)
  | .plus, real value => return real value
  | op, value =>
    match op, value.integer? with
    | .minus, some number => return integer (-number)
    | .plus, some number => return integer number
    | .invert, some number => return integer (-number - 1)
    | _, _ => Run.fail .wrongType

end Value

end Stencil.Script
