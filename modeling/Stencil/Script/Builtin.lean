import Stencil.Script.Operation
import Stencil.Script.Spelled
import Stencil.Text.Case

/-!
The functions and methods that code finds without defining them, as far as they do not call other
functions.
-/

set_option autoImplicit false

namespace Stencil.Script.Builtin

def named : List (Text × Builtin) :=
  [("range".toList, .range), ("len".toList, .length), ("int".toList, .integer),
    ("str".toList, .string)]

def ofName? (name : Text) : Option Builtin :=
  (named.find? fun entry => entry.1 == name).map (·.2)

abbrev Keywords := List (Text × Value)

def integerOf (value : Value) : Run Int := do
  match value.integer? with
  | some number => return number
  | none => Run.fail .wrongType

def rangeOf (arguments : List Value) : Run Value := do
  match ← arguments.mapM integerOf with
  | [stop] => return .range 0 stop 1
  | [start, stop] => return .range start stop 1
  | [start, stop, step] =>
    if step = 0 then Run.fail .wrongValue else return .range start stop step
  | _ => Run.fail .wrongType

def lengthOf (value : Value) : Run Value := do
  match value with
  | .text value => return .integer value.length
  | .tuple items => return .integer items.length
  | .range start stop step =>
    let length := rangeLength start stop step
    if maximalLength < length then Run.fail .overflow else return .integer length
  | .list place => return .integer (← Run.listItems place).length
  | .dict place => return .integer (← Run.dictEntries place).length
  | .datum (.set items) => return .integer items.length
  | .datum (.bytes bytes) => return .integer bytes.length
  | .datum (.points value) => return .integer value.length
  | _ => Run.fail .wrongType

def readInteger (base : Nat) (text : Text) : Run Value := do
  match Spelled.integer? base text with
  | some number => return .integer number
  | none => Run.fail .wrongValue

def toInteger (arguments : List Value) : Run Value := do
  match arguments with
  | [] => return .integer 0
  | [.text text] => readInteger 10 text
  | [.text text, base] => do
    let base ← integerOf base
    if base = 0 ∨ 2 ≤ base ∧ base ≤ 36 then readInteger base.toNat text
    else Run.fail .wrongValue
  | [.real value] =>
    match Decimal.truncate? value with
    | some number => return .integer number
    | none => Run.fail (if value.isInf then .overflow else .wrongValue)
  | [.datum (.points _)] => Run.fail .wrongValue
  | [value] => return .integer (← integerOf value)
  | _ => Run.fail .wrongType

def toText (arguments : List Value) : Run Value := do
  match arguments with
  | [] => return .text []
  | [value] => return .ofPoints (← value.displayPoints)
  | .datum (.bytes _) :: _ => Run.fail .unsupported
  | _ => Run.fail .wrongType

def escapeChar (quotes : Bool) (c : Char) : Text :=
  match c with
  | '&' => "&amp;".toList
  | '<' => "&lt;".toList
  | '>' => "&gt;".toList
  | '"' => if quotes then "&quot;".toList else [c]
  | '\'' => if quotes then "&#x27;".toList else [c]
  | _ => [c]

def escapeText (quotes : Bool) (text : Text) : Text := text.flatMap (escapeChar quotes)

def escapeOf (arguments : List Value) (keywords : Keywords) : Run Value := do
  let all := arguments ++ (keywords.filter fun entry => entry.1 == "quote".toList).map (·.2)
  match all with
  | [.text text] => return .text (escapeText true text)
  | [.text text, quotes] => return .text (escapeText (← quotes.truthy) text)
  | [_] => Run.fail .attributeMissing
  | [_, _] => Run.fail .attributeMissing
  | _ => Run.fail .wrongType

def apply (builtin : Builtin) (arguments : List Value) (keywords : Keywords) : Run Value := do
  match builtin, keywords with
  | .escape, keywords => escapeOf arguments keywords
  | .range, [] => rangeOf arguments
  | .length, [] =>
    match arguments with
    | [value] => lengthOf value
    | _ => Run.fail .wrongType
  | .integer, [] => toInteger arguments
  | .integer, [(name, base)] =>
    if arguments.length = 1 ∧ name = "base".toList then toInteger (arguments ++ [base])
    else Run.fail .wrongType
  | .string, [] => toText arguments
  | .string, [(name, value)] =>
    if arguments.isEmpty && name == "object".toList then toText [value] else Run.fail .wrongType
  | _, _ => Run.fail .wrongType

def pointsOf (value : Value) : Run Points := do
  match value.points? with
  | some points => return points
  | none => Run.fail .wrongType

def upperPoint : Point → Points
  | .char c => Points.ofText (Text.upper [c])
  | other => [other]

def applyMethod (receiver : Value) (method : Method) (arguments : List Value)
    (keywords : Keywords) : Run Value := do
  match receiver, method, arguments, keywords with
  | .list place, .append, [value], [] => do
    Run.replace place (.list ((← Run.listItems place) ++ [value]))
    return .none
  | .text text, .upper, [], [] => return .text (Text.upper text)
  | .datum (.points value), .upper, [], [] => return .ofPoints (value.flatMap upperPoint)
  | separator, .join, [value], [] => do
    let parts ← (← value.elements).mapM pointsOf
    return .ofPoints (List.intercalate (← pointsOf separator) parts)
  | _, _, _, _ => Run.fail .wrongType

def pageMethod? (name : Text) : Option PageMethod :=
  if name = "wrap".toList then some .wrap
  else if name = "twice".toList then some .twice
  else if name = "skip".toList then some .skip
  else if name = "around".toList then some .around
  else none

def dateFields (date : Date) : List (Text × Value) :=
  [("year".toList, .integer date.year), ("month".toList, .integer date.month),
    ("day".toList, .integer date.day)]

def momentFields (moment : Moment) : List (Text × Value) :=
  dateFields moment.date ++
    [("hour".toList, .integer moment.hour), ("minute".toList, .integer moment.minute),
      ("second".toList, .integer moment.second),
      ("microsecond".toList, .integer moment.microsecond)]

/-- An attribute of a value. Those of the page itself come before its methods. -/
def member (object : Value) (name : Text) : Run Value := do
  match object with
  | .page place => do
    let page ← Run.pageAt place
    match findName? name page.attributes with
    | some value => return value
    | none =>
      match page.kind, pageMethod? name with
      | .page, some method => return .pageMethod method
      | _, _ => Run.fail .attributeMissing
  | .text _ | .datum (.points _) =>
    if name = "upper".toList then return .method object .upper
    else if name = "join".toList then return .method object .join
    else Run.fail .attributeMissing
  | .list _ =>
    if name = "append".toList then return .method object .append
    else Run.fail .attributeMissing
  | .datum (.date date) => ofField (findName? name (dateFields date))
  | .datum (.moment moment) => ofField (findName? name (momentFields moment))
  | _ => Run.fail .attributeMissing
where
  ofField (found : Option Value) : Run Value :=
    match found with
    | some value => pure value
    | none => Run.fail .attributeMissing

def setMember (object : Value) (name : Text) (value : Value) : Run Unit := do
  match object with
  | .page place => do
    let page ← Run.pageAt place
    match page.kind with
    | .bare => Run.fail .attributeMissing
    | _ =>
      Run.replace place (.page { page with attributes := bindName name value page.attributes })
  | .function _ => Run.fail .unsupported
  | _ => Run.fail .attributeMissing

end Stencil.Script.Builtin
