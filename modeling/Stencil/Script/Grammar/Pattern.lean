import Stencil.Script.Grammar.Expression

/-!
Reading the patterns of a match statement.
-/

set_option autoImplicit false

namespace Stencil.Script.Grammar

open Reader

def wildcard : Text := ['_']

/-- The name a pattern binds. What looks like the start of a longer name is none. -/
def captureTarget : Reader Text := do
  let id ← name
  guard (id != wildcard)
  reject (.symbol .dot)
  reject (.symbol .openParen)
  reject (.symbol .assign)
  return id

def numberLiteral : Reader Number := fun tokens =>
  match tokens with
  | .number found :: rest => some (found, rest)
  | _ => none

def signedNumber : Reader Expr := do
  let negative ← acceptSymbol .minus
  let value := Expr.constant (constantOf (← numberLiteral))
  return if negative then .unary .minus value else value

def isImaginary : Expr → Bool
  | .constant (.imaginary _) => true
  | .unary _ (.constant (.imaginary _)) => true
  | _ => false

/-- A number with a sign, or a sum of a real and an imaginary one. -/
def numberPattern : Reader Expr := do
  let first ← signedNumber
  match (← peek).bind sumOp? with
  | none => return first
  | some op => do
    guard (!isImaginary first)
    skip 1
    let second := Expr.constant (constantOf (← numberLiteral))
    guard (isImaginary second)
    return .binary op first second

def constantPattern (nested : Nested) : Reader Expr := do
  match ← peek with
  | some (.symbol .minus) => numberPattern
  | some (.number _) => numberPattern
  | some (.quotation _) => atom nested
  | some (.keyword .noneWord) => atom nested
  | some (.keyword .trueWord) => atom nested
  | some (.keyword .falseWord) => atom nested
  | _ => failure

/-- A name with at least so many further parts behind dots. -/
def dottedExpr (atLeast : Nat) : Reader Expr := do
  let first ← name
  let parts ← many (do symbol .dot; name)
  guard (atLeast ≤ parts.length)
  return parts.foldl .attributeOf (.name first)

def starPattern : Reader Pattern := do
  symbol .star
  if (← peek) == some (.name wildcard) then
    skip 1
    return .star none
  else return .star (some (← captureTarget))

def isStar : Pattern → Bool
  | .star _ => true
  | _ => false

def sequenceItem (pattern : Reader Pattern) : Reader Pattern := do
  if ← nextIs (.symbol .star) then starPattern else pattern

/-- One pattern, or several with commas, which match a sequence. -/
def openSequence (pattern : Reader Pattern) : Reader Pattern := do
  let (items, comma) ← commaList (sequenceItem pattern)
  match items with
  | [item] =>
    if comma then return .sequence [item]
    else do
      guard (!isStar item)
      return item
  | _ => return .sequence items

def mappingKey (nested : Nested) : Reader Expr := constantPattern nested <|> dottedExpr 1

inductive MappingItem where
  | entry (key : Expr) (pattern : Pattern)
  | rest (name : Text)

def mappingItem (nested : Nested) (pattern : Reader Pattern) : Reader MappingItem := do
  if ← acceptSymbol .doubleStar then return .rest (← captureTarget)
  else
    let key ← mappingKey nested
    symbol .colon
    return .entry key (← pattern)

/-- Only the last item of a mapping pattern may stand for the rest. -/
def mappingOf : List MappingItem → Option (List Expr × List Pattern × Option Text)
  | [] => some ([], [], none)
  | [.rest name] => some ([], [], some name)
  | .rest _ :: _ => none
  | .entry key pattern :: others => do
    let (keys, items, rest) ← mappingOf others
    return (key :: keys, pattern :: items, rest)

def mappingPattern (nested : Nested) (pattern : Reader Pattern) : Reader Pattern := do
  symbol .openBrace
  if ← acceptSymbol .closeBrace then return .mapping [] [] none
  let (items, _) ← commaList (mappingItem nested pattern)
  symbol .closeBrace
  match mappingOf items with
  | some (keys, patterns, rest) => return .mapping keys patterns rest
  | none => failure

inductive InstanceItem where
  | positional (pattern : Pattern)
  | keyword (name : Text) (pattern : Pattern)

def instanceItem (pattern : Reader Pattern) : Reader InstanceItem := do
  match ← peek, ← peekSecond with
  | some (.name id), some (.symbol .assign) => do
    skip 2
    return .keyword (nameOf id) (← pattern)
  | _, _ => return .positional (← pattern)

/-- Positional items come before keyword items. -/
def instanceOf : List InstanceItem → Option (List Pattern × List (Text × Pattern))
  | [] => some ([], [])
  | .positional pattern :: others => do
    let (items, keywords) ← instanceOf others
    return (pattern :: items, keywords)
  | .keyword name pattern :: others => do
    let (items, keywords) ← instanceOf others
    guard items.isEmpty
    return ([], (name, pattern) :: keywords)

def instancePattern (type : Expr) (pattern : Reader Pattern) : Reader Pattern := do
  symbol .openParen
  if ← acceptSymbol .closeParen then return .instance type [] [] []
  let (items, _) ← commaList (instanceItem pattern)
  symbol .closeParen
  match instanceOf items with
  | some (positional, keywords) =>
    return .instance type positional (keywords.map (·.1)) (keywords.map (·.2))
  | none => failure

/-- A pattern that begins with a name: a value, a type with its parts, or a name to bind. -/
def namePattern (pattern : Reader Pattern) : Reader Pattern := do
  if (← peek) == some (.name wildcard) then
    skip 1
    return .capture none
  let found ← dottedExpr 0
  if ← nextIs (.symbol .openParen) then instancePattern found pattern
  else
    reject (.symbol .assign)
    match found with
    | .name id => return .capture (some id)
    | _ => return .constant found

def closedPattern (nested : Nested) (pattern : Reader Pattern) : Reader Pattern := do
  match ← peek with
  | some (.name _) => namePattern pattern
  | some (.symbol .openBracket) =>
    enclosed .openBracket .closeBracket do
      if ← nextIs (.symbol .closeBracket) then return .sequence []
      else
        let (items, _) ← commaList (sequenceItem pattern)
        return .sequence items
  | some (.symbol .openParen) =>
    enclosed .openParen .closeParen do
      if ← nextIs (.symbol .closeParen) then return .sequence [] else openSequence pattern
  | some (.symbol .openBrace) => mappingPattern nested pattern
  | _ => return .constant (← constantPattern nested)

def patternOf (nested : Nested) (pattern : Reader Pattern) : Reader Pattern := do
  let options ← separated (.symbol .bar) (closedPattern nested pattern)
  let found := match options with
    | [option] => option
    | _ => .either options
  if ← acceptKeyword .asWord then return .as found (← captureTarget) else return found

/-- Patterns up to the given depth. -/
def patternUpTo (nested : Nested) : Nat → Reader Pattern
  | 0 => failure
  | depth + 1 => patternOf nested (patternUpTo nested depth)

end Stencil.Script.Grammar
