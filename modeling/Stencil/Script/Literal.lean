import Stencil.Datum.Show
import Stencil.Script.Grammar.Expression
import Stencil.Text.Basic

/-!
Reading a literal: constants, their collections, numbers with a sign and sums of a real and an
imaginary number.
-/

set_option autoImplicit false

namespace Stencil.Script

/-- Why an expression is no literal: its form is another one, or it collects what cannot be. -/
inductive LiteralFault where
  | malformed
  | unhashable
deriving DecidableEq, Repr

namespace Literal

def constantDatum : Constant → Datum
  | .none => .none
  | .bool value => .bool value
  | .ellipsis => .ellipsis
  | .integer value => .integer value
  | .real value => .real value.toFloat
  | .imaginary value => .complex 0.0 value.toFloat
  | .string value => .ofPoints value
  | .bytes value => .bytes value

def isNumber : Constant → Bool
  | .integer _ => true
  | .real _ => true
  | .imaginary _ => true
  | _ => false

def number : Expr → Except LiteralFault Datum
  | .constant value => if isNumber value then .ok (constantDatum value) else .error .malformed
  | _ => .error .malformed

def negate : Datum → Datum
  | .integer value => .integer (-value)
  | .real value => .real (-value)
  | .complex a b => .complex (-a) (-b)
  | other => other

def signedNumber : Expr → Except LiteralFault Datum
  | .unary .plus operand => number operand
  | .unary .minus operand => (number operand).map negate
  | other => number other

def toFloat : Datum → Float
  | .integer value => Float.ofInt value
  | .real value => value
  | _ => 0.0

/-- The sum or the difference of a real and an imaginary number. -/
def combine (op : BinaryOp) (left right : Datum) : Except LiteralFault Datum :=
  match op, left, right with
  | _, .complex _ _, _ => .error .malformed
  | .add, real, .complex a b => .ok (.complex (toFloat real + a) (0.0 + b))
  | .subtract, real, .complex a b => .ok (.complex (toFloat real - a) (0.0 - b))
  | _, _, _ => .error .malformed

/-- The whole numbers below which a set of so many members keeps them in order. -/
def orderedBelow (count : Nat) : Int :=
  if count < 5 then 8 else if count < 19 then 32 else if count < 77 then 128 else 512

def isOrdered (bound : Int) (item : Datum) : Bool :=
  item.integer?.any fun number => 0 ≤ number && number < bound

def precedes (left right : Datum) : Bool := left.integer?.getD 0 ≤ right.integer?.getD 0

/-- The members of a set, each of them once. Small whole numbers are kept in ascending order, other
members in the order in which they come. -/
def collect (items : List Datum) : List Datum :=
  let found := items.foldl (fun found item =>
    if found.any (·.sameKey item) then found else found ++ [item]) []
  if found.all (isOrdered (orderedBelow found.length)) then found.mergeSort precedes else found

def hashable (item : Datum) : Except LiteralFault Datum :=
  if item.isHashable then .ok item else .error .unhashable

mutual

def value : Expr → Except LiteralFault Datum
  | .constant constant => .ok (constantDatum constant)
  | .tuple items => do return .tuple (← values items)
  | .list items => do return .list (← values items)
  | .set items => do return .set (collect (← members items))
  | .call (.name id) [] => if id = "set".toList then .ok (.set []) else .error .malformed
  | .dict items => do return .dict (Datum.Keyed.update [] (← entries items))
  | .binary op left right => do
    let right ← number right
    let left ← signedNumber left
    combine op left right
  | other => signedNumber other

def values : List Expr → Except LiteralFault (List Datum)
  | [] => .ok []
  | item :: rest => do
    let first ← value item
    let others ← values rest
    return first :: others

def members : List Expr → Except LiteralFault (List Datum)
  | [] => .ok []
  | item :: rest => do
    let first ← hashable (← value item)
    let others ← members rest
    return first :: others

def entries : List (DictItem Expr) → Except LiteralFault (List (Datum × Datum))
  | [] => .ok []
  | .entry key item :: rest => do
    let first ← value key
    let held ← value item
    let first ← hashable first
    let others ← entries rest
    return (first, held) :: others
  | .mapping _ :: _ => .error .malformed

end

end Literal

/-- The datum that a text denotes as a literal. Blanks before it do not count. -/
def literal (text : Text) : Except LiteralFault Datum :=
  let start := text.dropWhile Text.isIndent
  if start.contains '\x00' then .error .malformed
  else match parseExpression start with
    | some expr => Literal.value expr
    | none => .error .malformed

end Stencil.Script
