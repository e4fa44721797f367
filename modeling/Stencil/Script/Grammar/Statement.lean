import Stencil.Script.Grammar.Pattern

/-!
Reading statements. A block is either indented below its header or stands behind the colon.
-/

set_option autoImplicit false

namespace Stencil.Script

open Reader

namespace Grammar

/-! ### Simple statements -/

def augmentedOp? : Token → Option BinaryOp
  | .symbol .plusAssign => some .add
  | .symbol .minusAssign => some .subtract
  | .symbol .starAssign => some .multiply
  | .symbol .slashAssign => some .divide
  | .symbol .doubleSlashAssign => some .floorDivide
  | .symbol .percentAssign => some .modulo
  | .symbol .atAssign => some .matrixMultiply
  | .symbol .ampersandAssign => some .bitAnd
  | .symbol .barAssign => some .bitOr
  | .symbol .caretAssign => some .bitXor
  | .symbol .leftShiftAssign => some .leftShift
  | .symbol .rightShiftAssign => some .rightShift
  | .symbol .doubleStarAssign => some .power
  | _ => none

/-- The value on the right of an assignment. -/
def assignedValue (nested : Nested) : Reader Expr := do
  if ← nextIs (.keyword .yieldWord) then yieldExpression nested else starExpressions nested

/-- One more equals sign turns the value found so far into a target. -/
def moreTargets (nested : Nested) (found : List Expr × Expr) :
    Reader (Option (List Expr × Expr)) := do
  if ← acceptSymbol .assign then
    guard (isTarget found.2)
    return some (found.2 :: found.1, ← assignedValue nested)
  else return none

/-- A statement that begins with an expression. -/
def expressionStatement (nested : Nested) : Reader Stmt := do
  let simple := match ← peek, ← peekSecond with
    | some (.name _), some (.symbol .colon) => true
    | _, _ => false
  let first ← starExpressions nested
  match ← peek with
  | some (.symbol .colon) => do
    guard (isSingleTarget first)
    skip 1
    let typing ← nested.expression
    let value ←
      if ← acceptSymbol .assign then do pure (some (← assignedValue nested)) else pure none
    return .annotated first typing value simple
  | some (.symbol .assign) => do
    let (targets, value) ← grow (moreTargets nested) ([], first)
    return .assign targets.reverse value
  | next =>
    match next.bind augmentedOp? with
    | some op => do
      guard (isSingleTarget first)
      skip 1
      return .augmented first op (← assignedValue nested)
    | none => return .expression first

def dottedName : Reader (List Text) := separated (.symbol .dot) name

def newName : Reader (Option Text) := do
  if ← acceptKeyword .asWord then return some (← name) else return none

def importedModule : Reader Import := do
  let path ← dottedName
  return ⟨path, ← newName⟩

def importedName : Reader Import := do
  let id ← name
  return ⟨[id], ← newName⟩

/-- The dots in front of a module's name. -/
def dots : Reader Nat :=
  grow (fun count => do
    if ← acceptSymbol .dot then return some (count + 1)
    else if ← acceptSymbol .ellipsis then return some (count + 3)
    else return none) 0

def selection : Reader Selection := do
  if ← acceptSymbol .star then return .everything
  else if ← acceptSymbol .openParen then
    let (names, _) ← commaList importedName
    symbol .closeParen
    return .names names
  else
    let names ← separated (.symbol .comma) importedName
    reject (.symbol .comma)
    return .names names

def importFrom : Reader Stmt := do
  keyword .fromWord
  let level ← dots
  let path ← if 0 < level then do pure ((← possibly dottedName).getD []) else dottedName
  keyword .importWord
  return .importNames level path (← selection)

def nameList : Reader (List Text) := separated (.symbol .comma) name

def deletion (nested : Nested) : Reader Stmt := do
  keyword .delWord
  let (targets, _) ← commaList (do
    let target ← nested.primary
    guard (isDeletable target)
    return target)
  match ← peek with
  | some (.symbol .semicolon) => return .delete targets
  | some .newline => return .delete targets
  | _ => failure

def possiblyAfter (found : Bool) (reader : Reader Expr) : Reader (Option Expr) := do
  if found then return some (← reader) else return none

def simpleStatement (nested : Nested) : Reader Stmt := do
  match ← peek with
  | some (.keyword .passWord) => do skip 1; return .pass
  | some (.keyword .breakWord) => do skip 1; return .breakLoop
  | some (.keyword .continueWord) => do skip 1; return .continueLoop
  | some (.keyword .returnWord) => do
    skip 1
    return .returnValue (← possibly (starExpressions nested))
  | some (.keyword .raiseWord) => do
    skip 1
    match ← possibly nested.expression with
    | none => return .raiseError none none
    | some error =>
      return .raiseError (some error)
        (← possiblyAfter (← acceptKeyword .fromWord) nested.expression)
  | some (.keyword .globalWord) => do skip 1; return .globalNames (← nameList)
  | some (.keyword .nonlocalWord) => do skip 1; return .nonlocalNames (← nameList)
  | some (.keyword .delWord) => deletion nested
  | some (.keyword .yieldWord) => return .expression (← yieldExpression nested)
  | some (.keyword .assertWord) => do
    skip 1
    let test ← nested.expression
    return .assertion test (← possiblyAfter (← acceptSymbol .comma) nested.expression)
  | some (.keyword .importWord) => do
    skip 1
    return .importModules (← separated (.symbol .comma) importedModule)
  | some (.keyword .fromWord) => importFrom
  | _ => expressionStatement nested

/-- The statements of one line. -/
def simpleStatements (nested : Nested) : Reader (List Stmt) := do
  let found ← separated (.symbol .semicolon) (simpleStatement nested)
  let _ ← acceptSymbol .semicolon
  token .newline
  return found

/-! ### Compound statements -/

def block (nested : Nested) (statements : Reader (List Stmt)) : Reader (List Stmt) := do
  if ← accept .newline then
    token .indent
    let found ← statements
    token .dedent
    return found
  else simpleStatements nested

def colonBlock (nested : Nested) (statements : Reader (List Stmt)) : Reader (List Stmt) := do
  symbol .colon
  block nested statements

def elseBlock (nested : Nested) (statements : Reader (List Stmt)) : Reader (List Stmt) := do
  if ← acceptKeyword .elseWord then colonBlock nested statements else return []

/-- One test and its block. -/
def testedBlock (nested : Nested) (statements : Reader (List Stmt)) :
    Reader (Expr × List Stmt) := do
  let test ← namedExpression nested.expression
  return (test, ← colonBlock nested statements)

/-- A chain of tests: each further test is the alternative of the one before. -/
def ifStatement (nested : Nested) (statements : Reader (List Stmt)) : Reader Stmt := do
  keyword .ifWord
  let (test, body) ← testedBlock nested statements
  let others ← many (do keyword .elifWord; testedBlock nested statements)
  let last ← elseBlock nested statements
  let alternative := others.foldr (fun other rest => [Stmt.branch other.1 other.2 rest]) last
  return .branch test body alternative

def whileStatement (nested : Nested) (statements : Reader (List Stmt)) : Reader Stmt := do
  keyword .whileWord
  let (test, body) ← testedBlock nested statements
  return .whileLoop test body (← elseBlock nested statements)

def forStatement (nested : Nested) (statements : Reader (List Stmt)) (async : Bool) :
    Reader Stmt := do
  keyword .forWord
  let target ← starTargets nested
  keyword .inWord
  let iterable ← starExpressions nested
  let body ← colonBlock nested statements
  return .forLoop target iterable body (← elseBlock nested statements) async

def withItem (nested : Nested) : Reader (Expr × Option Expr) := do
  let manager ← nested.expression
  if ← acceptKeyword .asWord then
    let target ← starTarget nested
    return (manager, some target)
  else return (manager, none)

/-- The items in parentheses, if a colon follows them. -/
def withGroup (nested : Nested) : Reader (List (Expr × Option Expr)) := do
  let (items, _) ← enclosed .openParen .closeParen (commaList (withItem nested))
  guard (← nextIs (.symbol .colon))
  return items

def withStatement (nested : Nested) (statements : Reader (List Stmt)) (async : Bool) :
    Reader Stmt := do
  keyword .withWord
  let items ← withGroup nested <|> separated (.symbol .comma) (withItem nested)
  return .withBlock items (← colonBlock nested statements) async

def handler (nested : Nested) (statements : Reader (List Stmt)) (grouped : Bool) :
    Reader (Handler Stmt) := do
  keyword .exceptWord
  if grouped then symbol .star
  if ← nextIs (.symbol .colon) then
    guard !grouped
    return ⟨none, none, ← colonBlock nested statements⟩
  else
    let type ← nested.expression
    let name ← newName
    return ⟨some type, name, ← colonBlock nested statements⟩

def finalBlock (nested : Nested) (statements : Reader (List Stmt)) : Reader (List Stmt) := do
  if ← acceptKeyword .finallyWord then colonBlock nested statements else return []

def tryStatement (nested : Nested) (statements : Reader (List Stmt)) : Reader Stmt := do
  keyword .tryWord
  let body ← colonBlock nested statements
  if ← nextIs (.keyword .finallyWord) then
    return .tryBlock body [] [] (← finalBlock nested statements) false
  else
    let grouped := (← peekSecond) == some (.symbol .star)
    let handlers ← many1 (handler nested statements grouped)
    let alternative ← elseBlock nested statements
    return .tryBlock body handlers alternative (← finalBlock nested statements) grouped

def functionDefinition (nested : Nested) (statements : Reader (List Stmt))
    (decorators : List Expr) (async : Bool) : Reader Stmt := do
  keyword .defWord
  let id ← name
  let found ← enclosed .openParen .closeParen (parameters nested true .closeParen)
  let returns ← possiblyAfter (← acceptSymbol .arrow) nested.expression
  return .functionDef id found returns (← colonBlock nested statements) decorators async

def classDefinition (nested : Nested) (statements : Reader (List Stmt))
    (decorators : List Expr) : Reader Stmt := do
  keyword .classWord
  let id ← name
  let found ← if ← acceptSymbol .openParen then arguments nested false else pure []
  return .classDef id found (← colonBlock nested statements) decorators

def definition (nested : Nested) (statements : Reader (List Stmt)) (decorators : List Expr) :
    Reader Stmt := do
  if ← acceptKeyword .asyncWord then functionDefinition nested statements decorators true
  else if ← nextIs (.keyword .classWord) then classDefinition nested statements decorators
  else functionDefinition nested statements decorators false

def decorated (nested : Nested) (statements : Reader (List Stmt)) : Reader Stmt := do
  let decorators ← many1 (do
    symbol .atSign
    let value ← namedExpression nested.expression
    token .newline
    return value)
  definition nested statements decorators

def asyncStatement (nested : Nested) (statements : Reader (List Stmt)) : Reader Stmt := do
  match ← peekSecond with
  | some (.keyword .withWord) => do skip 1; withStatement nested statements true
  | some (.keyword .forWord) => do skip 1; forStatement nested statements true
  | _ => definition nested statements []

/-- The word that begins a match statement is a name elsewhere. -/
def matchName : Text := "match".toList

def caseName : Text := "case".toList

def subject (nested : Nested) : Reader Expr := do
  let (items, comma) ← commaList (starNamed nested)
  match items, comma with
  | [.starred _], false => failure
  | _, _ => return tupleOf items comma

/-- The header of a match statement, through the start of its cases. -/
def matchHeader (nested : Nested) : Reader Expr := do
  token (.name matchName)
  let value ← subject nested
  symbol .colon
  token .newline
  token .indent
  return value

def caseBlock (nested : Nested) (statements : Reader (List Stmt)) (depth : Nat) :
    Reader (Case Stmt) := do
  token (.name caseName)
  let pattern ← openSequence (patternUpTo nested depth)
  let condition ←
    possiblyAfter (← acceptKeyword .ifWord) (namedExpression nested.expression)
  return ⟨pattern, condition, ← colonBlock nested statements⟩

def matchStatement (nested : Nested) (statements : Reader (List Stmt)) (depth : Nat) :
    Reader Stmt := do
  let value ← matchHeader nested
  let cases ← many1 (caseBlock nested statements depth)
  token .dedent
  return .matchBlock value cases

/-- One compound statement or the simple statements of one line. -/
def statement (nested : Nested) (statements : Reader (List Stmt)) (depth : Nat) :
    Reader (List Stmt) := do
  match ← peek with
  | some (.keyword .ifWord) => return [← ifStatement nested statements]
  | some (.keyword .whileWord) => return [← whileStatement nested statements]
  | some (.keyword .forWord) => return [← forStatement nested statements false]
  | some (.keyword .withWord) => return [← withStatement nested statements false]
  | some (.keyword .tryWord) => return [← tryStatement nested statements]
  | some (.keyword .defWord) => return [← definition nested statements []]
  | some (.keyword .classWord) => return [← definition nested statements []]
  | some (.keyword .asyncWord) => return [← asyncStatement nested statements]
  | some (.symbol .atSign) => return [← decorated nested statements]
  | some (.name id) =>
    if id = matchName then
      (do return [← matchStatement nested statements depth]) <|> simpleStatements nested
    else simpleStatements nested
  | _ => simpleStatements nested

/-- Statements whose blocks are nested up to the given depth, at least one of them. -/
def statementsUpTo (nested : Nested) : Nat → Reader (List Stmt)
  | 0 => failure
  | depth + 1 => do
    let found ← many1 (statement nested (statementsUpTo nested depth) (depth + 1))
    return found.flatten

end Grammar

/-- The statements of a whole source, which may have none. -/
def parseModule (source : Text) : Option (List Stmt) := do
  let tokens ← Lexer.statementTokens source
  if tokens.isEmpty then return []
  let depth := source.length + 1
  let (found, rest) ← Grammar.statementsUpTo (Nested.upTo depth) depth tokens
  guard rest.isEmpty
  return found

end Stencil.Script
