import Stencil.Script.Grammar.Formatted
import Stencil.Script.Grammar.Reader
import Stencil.Script.Lexer

/-!
Reading expressions. Each level of binding strength reads the level below it; what is enclosed in
brackets, or follows a word that binds loosely, is read by the readers that are passed in. They
are the same readers with one step less to go, so the depth of an expression bounds the steps.
-/

set_option autoImplicit false

namespace Stencil.Script

open Reader

/-- The readers for the expressions within an expression. -/
structure Nested where
  expression : Reader Expr
  disjunction : Reader Expr
  inversion : Reader Expr
  bitOr : Reader Expr
  factor : Reader Expr
  primary : Reader Expr

namespace Grammar

/-! ### Targets -/

mutual

/-- What may be assigned to. -/
def isTarget : Expr → Bool
  | .name _ => true
  | .attributeOf _ _ => true
  | .subscript _ _ => true
  | .starred value => isTarget value
  | .tuple items => areTargets items
  | .list items => areTargets items
  | _ => false

def areTargets : List Expr → Bool
  | [] => true
  | item :: rest => isTarget item && areTargets rest

end

mutual

/-- What may be deleted. -/
def isDeletable : Expr → Bool
  | .name _ => true
  | .attributeOf _ _ => true
  | .subscript _ _ => true
  | .tuple items => areDeletable items
  | .list items => areDeletable items
  | _ => false

def areDeletable : List Expr → Bool
  | [] => true
  | item :: rest => isDeletable item && areDeletable rest

end

/-- What a single value may be assigned to. -/
def isSingleTarget : Expr → Bool
  | .name _ => true
  | .attributeOf _ _ => true
  | .subscript _ _ => true
  | _ => false

def tupleOf (items : List Expr) (comma : Bool) : Expr :=
  match items with
  | [item] => if comma then .tuple items else item
  | _ => .tuple items

/-! ### Parts of expressions -/

/-- An expression, or a name that is given a value on the way. -/
def namedExpression (expression : Reader Expr) : Reader Expr := do
  match ← peek, ← peekSecond with
  | some (.name target), some (.symbol .walrus) => do
    skip 2
    return .named (nameOf target) (← expression)
  | _, _ => do
    let value ← expression
    reject (.symbol .walrus)
    return value

def starOr (nested : Nested) (other : Reader Expr) : Reader Expr := do
  if ← acceptSymbol .star then return .starred (← nested.bitOr) else other

def starNamed (nested : Nested) : Reader Expr :=
  starOr nested (namedExpression nested.expression)

/-- One expression, or several with commas, which make a tuple. -/
def starExpressions (nested : Nested) : Reader Expr := do
  let (items, comma) ← commaList (starOr nested nested.expression)
  return tupleOf items comma

def yieldExpression (nested : Nested) : Reader Expr := do
  keyword .yieldWord
  if ← acceptKeyword .fromWord then return .yieldFrom (← nested.expression)
  else return .yield (← possibly (starExpressions nested))

/-- A target within a list of targets. -/
def starTarget (nested : Nested) : Reader Expr := do
  let starred ← acceptSymbol .star
  let target ← nested.primary
  guard (isTarget target)
  return if starred then .starred target else target

def starTargets (nested : Nested) : Reader Expr := do
  let (items, comma) ← commaList (starTarget nested)
  return tupleOf items comma

def clause (nested : Nested) : Reader (Clause Expr) := do
  let async ← acceptKeyword .asyncWord
  keyword .forWord
  let target ← starTargets nested
  keyword .inWord
  let iterable ← nested.disjunction
  let conditions ← many (do keyword .ifWord; nested.disjunction)
  return ⟨target, iterable, conditions, async⟩

/-- Whether the clauses of a comprehension come next. -/
def clausesFollow : Reader Bool := do
  match ← peek, ← peekSecond with
  | some (.keyword .forWord), _ => return true
  | some (.keyword .asyncWord), some (.keyword .forWord) => return true
  | _, _ => return false

/-- The clauses of a comprehension whose element has been read. An element with a star has none. -/
def comprehensionOf (nested : Nested) (kind : ComprehensionKind) (element : Expr)
    (value : Option Expr) : Reader Expr := do
  match element with
  | .starred _ => failure
  | _ => return .comprehension kind element value (← many1 (clause nested))

/-! ### Arguments and parameters -/

inductive ArgumentPhase where
  | positional | named | mapping
deriving DecidableEq

/-- One argument. Positional ones come first, and none with a star follows a mapping. -/
def argument (nested : Nested) (phase : ArgumentPhase) :
    Reader (Argument Expr × ArgumentPhase) := do
  match ← peek, ← peekSecond with
  | some (.symbol .doubleStar), _ => do
    skip 1
    return (.mapping (← nested.expression), .mapping)
  | some (.name name), some (.symbol .assign) => do
    skip 2
    let value ← nested.expression
    return (.keyword (nameOf name) value, if phase = .mapping then .mapping else .named)
  | some (.symbol .star), _ => do
    guard (phase ≠ .mapping)
    skip 1
    return (.positional (.starred (← nested.expression)), phase)
  | _, _ => do
    guard (phase = .positional)
    let value ← namedExpression nested.expression
    reject (.symbol .assign)
    return (.positional value, .positional)

def moreArguments (nested : Nested) (found : List (Argument Expr) × ArgumentPhase) :
    Reader (Option (List (Argument Expr) × ArgumentPhase)) :=
  possibly do
    symbol .comma
    let (next, phase) ← argument nested found.2
    return (next :: found.1, phase)

/-- Arguments through the closing parenthesis, the opening one having been read. A comprehension
may be the only argument without parentheses of its own, where that is allowed. -/
def arguments (nested : Nested) (comprehensions : Bool) : Reader (List (Argument Expr)) := do
  if ← acceptSymbol .closeParen then return []
  let (first, phase) ← argument nested .positional
  match first, comprehensions, ← clausesFollow with
  | .positional element, true, true => do
    let value ← comprehensionOf nested .generator element none
    symbol .closeParen
    return [.positional value]
  | _, _, _ => do
    let (found, _) ← grow (moreArguments nested) ([first], phase)
    let _ ← acceptSymbol .comma
    symbol .closeParen
    return found.reverse

inductive ParameterItem where
  | single (parameter : Parameter Expr)
  | rest (parameter : Parameter Expr)
  | bareStar
  | slash
  | keywords (parameter : Parameter Expr)

/-- One item of a list of parameters. A lambda's parameters have no types. -/
def parameterItem (nested : Nested) (typed : Bool) : Reader ParameterItem := do
  let typing (reader : Reader Expr) : Reader (Option Expr) := do
    if typed then
      if ← acceptSymbol .colon then return some (← reader) else return none
    else return none
  if ← acceptSymbol .slash then return .slash
  else if ← acceptSymbol .doubleStar then
    let id ← name
    return .keywords ⟨id, ← typing nested.expression, none⟩
  else if ← acceptSymbol .star then
    match ← peek with
    | some (.name id) => do
      skip 1
      return .rest ⟨nameOf id, ← typing (starOr nested nested.expression), none⟩
    | _ => return .bareStar
  else
    let id ← name
    let type ← typing nested.expression
    let default ← if ← acceptSymbol .assign then do pure (some (← nested.expression)) else pure none
    return .single ⟨id, type, default⟩

inductive ParameterPhase where
  | positional (defaulted slashed : Bool)
  | keyword (awaited : Bool)
  | done
deriving DecidableEq

/-- Puts the items of a list of parameters in their places. Parameters without a default do not
follow ones with a default, and what follows a star can only be given by keyword. -/
def arrange (phase : ParameterPhase) (parameters : Parameters Expr) :
    List ParameterItem → Option (Parameters Expr)
  | [] => if phase = .keyword true then none else some parameters
  | item :: others =>
    match phase, item with
    | .positional defaulted slashed, .single parameter =>
      if defaulted && parameter.default.isNone then none
      else arrange (.positional parameter.default.isSome slashed)
        { parameters with regular := parameters.regular ++ [parameter] } others
    | .positional defaulted false, .slash =>
      if parameters.regular.isEmpty then none
      else arrange (.positional defaulted true)
        { parameters with positionalOnly := parameters.regular, regular := [] } others
    | .positional _ _, .rest parameter =>
      arrange (.keyword false) { parameters with rest := some parameter } others
    | .positional _ _, .bareStar => arrange (.keyword true) parameters others
    | .keyword _, .single parameter =>
      arrange (.keyword false)
        { parameters with keywordOnly := parameters.keywordOnly ++ [parameter] } others
    | .positional _ _, .keywords parameter =>
      arrange .done { parameters with keywords := some parameter } others
    | .keyword false, .keywords parameter =>
      arrange .done { parameters with keywords := some parameter } others
    | _, _ => none

/-- The parameters up to the given closing symbol. -/
def parameters (nested : Nested) (typed : Bool) (closing : Symbol) :
    Reader (Parameters Expr) := do
  if ← nextIs (.symbol closing) then return Parameters.empty
  let (items, comma) ← commaList (parameterItem nested typed)
  let bare := match items.getLast? with
    | some .bareStar => true
    | _ => false
  guard (!(comma && bare))
  match arrange (.positional false false) Parameters.empty items with
  | some parameters => return parameters
  | none => failure

/-! ### Atoms -/

/-- The items of a bracketed list after its first one. -/
def moreItems (nested : Nested) : Reader (List Expr × Bool) := do
  let others ← many (do symbol .comma; starNamed nested)
  let trailing ← acceptSymbol .comma
  return (others, trailing)

/-- What stands in parentheses: nothing, a single expression, a tuple or a comprehension. -/
def parenthesized (nested : Nested) : Reader Expr := do
  if ← nextIs (.symbol .closeParen) then return .tuple []
  else if ← nextIs (.keyword .yieldWord) then yieldExpression nested
  else
    let first ← starNamed nested
    if ← clausesFollow then comprehensionOf nested .generator first none
    else
      let (others, trailing) ← moreItems nested
      if others.isEmpty && !trailing then
        match first with
        | .starred _ => failure
        | _ => return first
      else return .tuple (first :: others)

def bracketed (nested : Nested) : Reader Expr := do
  if ← nextIs (.symbol .closeBracket) then return .list []
  else
    let first ← starNamed nested
    if ← clausesFollow then comprehensionOf nested .list first none
    else
      let (others, _) ← moreItems nested
      return .list (first :: others)

def dictItem (nested : Nested) : Reader (DictItem Expr) := do
  if ← acceptSymbol .doubleStar then return .mapping (← nested.bitOr)
  else
    let key ← nested.expression
    symbol .colon
    return .entry key (← nested.expression)

def moreDictItems (nested : Nested) : Reader (List (DictItem Expr)) := do
  let others ← many (do symbol .comma; dictItem nested)
  let _ ← acceptSymbol .comma
  return others

/-- What stands in braces: a dictionary, a set or a comprehension of one of them. -/
def braced (nested : Nested) : Reader Expr := do
  if ← nextIs (.symbol .closeBrace) then return .dict []
  else if ← nextIs (.symbol .doubleStar) then
    let first ← dictItem nested
    return .dict (first :: (← moreDictItems nested))
  else
    let walrus := (← peekSecond) == some (.symbol .walrus)
    let first ← starNamed nested
    if ← clausesFollow then comprehensionOf nested .set first none
    else if ← nextIs (.symbol .colon) then
      guard !walrus
      match first with
      | .starred _ => failure
      | _ => do
        skip 1
        let value ← nested.expression
        if ← clausesFollow then comprehensionOf nested .dict first (some value)
        else return .dict (.entry first value :: (← moreDictItems nested))
    else
      let (others, _) ← moreItems nested
      return .set (first :: others)

def sliceRest (nested : Nested) (lower : Option Expr) : Reader Expr := do
  symbol .colon
  let upper ← possibly nested.expression
  let step ← if ← acceptSymbol .colon then possibly nested.expression else pure none
  return .slice lower upper step

def sliceItem (nested : Nested) : Reader Expr := do
  if ← acceptSymbol .star then return .starred (← nested.expression)
  else if ← nextIs (.symbol .colon) then sliceRest nested none
  else if (← peekSecond) == some (.symbol .walrus) then namedExpression nested.expression
  else
    let value ← nested.expression
    if ← nextIs (.symbol .colon) then sliceRest nested (some value) else return value

/-- What stands in the brackets of a subscript. -/
def slices (nested : Nested) : Reader Expr := do
  let (items, comma) ← commaList (sliceItem nested)
  match items with
  | [.starred value] => return .tuple [.starred value]
  | _ => return tupleOf items comma

def quotation : Reader Quotation := fun tokens =>
  match tokens with
  | .quotation found :: rest => some (found, rest)
  | _ => none

def plainPoints (quotation : Quotation) : Option Points :=
  if quotation.raw then some (Points.ofText quotation.body) else Escape.unescape? quotation.body

/-- Neighbouring pieces of fixed text are one piece. -/
def joinFixed : List (FormatPart Expr) → List (FormatPart Expr)
  | [] => []
  | .fixed points :: rest =>
    match joinFixed rest with
    | .fixed more :: others => .fixed (points ++ more) :: others
    | others => .fixed points :: others
  | part :: rest => part :: joinFixed rest

/-- The value of quotations that stand side by side. Bytes do not mix with text. -/
def quotationsValue (read : Text → Option Expr) (quotations : List Quotation) : Option Expr := do
  if quotations.any (·.bytes) then
    guard (quotations.all (·.bytes))
    let pieces ← quotations.mapM fun quotation => Escape.bytes? quotation.raw quotation.body
    return .constant (.bytes pieces.flatten)
  else if quotations.any (·.formatted) then
    let pieces ← quotations.mapM fun quotation =>
      if quotation.formatted then Formatted.parts? read quotation.raw quotation.body
      else (plainPoints quotation).map fun points => [FormatPart.fixed points]
    return .formatted (joinFixed pieces.flatten)
  else
    let pieces ← quotations.mapM plainPoints
    return .constant (.string pieces.flatten)

/-- Reads the expression of a field in a formatted string, as if it stood in parentheses. -/
def readField (nested : Nested) (text : Text) : Option Expr := do
  let tokens ← Lexer.statementTokens ('(' :: text ++ [')'])
  let (value, rest) ← nested.primary tokens
  guard (rest == [.newline])
  return value

def quotations (nested : Nested) : Reader Expr := do
  let found ← many1 quotation
  match quotationsValue (readField nested) found with
  | some value => return value
  | none => failure

def constantOf : Number → Constant
  | .integer value => .integer value
  | .real value => .real value
  | .imaginary value => .imaginary value

def atom (nested : Nested) : Reader Expr := do
  match ← peek with
  | some (.name id) => do
    skip 1
    return .name (nameOf id)
  | some (.number number) => do
    skip 1
    return .constant (constantOf number)
  | some (.quotation _) => quotations nested
  | some (.keyword .trueWord) => do
    skip 1
    return .constant (.bool true)
  | some (.keyword .falseWord) => do
    skip 1
    return .constant (.bool false)
  | some (.keyword .noneWord) => do
    skip 1
    return .constant .none
  | some (.symbol .ellipsis) => do
    skip 1
    return .constant .ellipsis
  | some (.symbol .openParen) => enclosed .openParen .closeParen (parenthesized nested)
  | some (.symbol .openBracket) => enclosed .openBracket .closeBracket (bracketed nested)
  | some (.symbol .openBrace) => enclosed .openBrace .closeBrace (braced nested)
  | _ => failure

/-! ### Operators, from the strongest to the weakest -/

def trailer (nested : Nested) (object : Expr) : Reader (Option Expr) := do
  if ← acceptSymbol .dot then return some (.attributeOf object (← name))
  else if ← acceptSymbol .openParen then
    return some (.call object (← arguments nested true))
  else if ← nextIs (.symbol .openBracket) then
    return some (.subscript object (← enclosed .openBracket .closeBracket (slices nested)))
  else return none

def primary (nested : Nested) : Reader Expr := do
  grow (trailer nested) (← atom nested)

def awaited (nested : Nested) : Reader Expr := do
  if ← acceptKeyword .awaitWord then return .await (← primary nested) else primary nested

def power (nested : Nested) : Reader Expr := do
  let base ← awaited nested
  if ← acceptSymbol .doubleStar then return .binary .power base (← nested.factor)
  else return base

def factor (nested : Nested) : Reader Expr := do
  if ← acceptSymbol .plus then return .unary .plus (← nested.factor)
  else if ← acceptSymbol .minus then return .unary .minus (← nested.factor)
  else if ← acceptSymbol .tilde then return .unary .invert (← nested.factor)
  else power nested

/-- Operators of one level, which group to the left. -/
def leftGrouped (op? : Token → Option BinaryOp) (operand : Reader Expr) : Reader Expr := do
  let first ← operand
  grow (fun left => possibly do
    match (← peek).bind op? with
    | some op => do
      skip 1
      return .binary op left (← operand)
    | none => failure) first

def termOp? : Token → Option BinaryOp
  | .symbol .star => some .multiply
  | .symbol .slash => some .divide
  | .symbol .doubleSlash => some .floorDivide
  | .symbol .percent => some .modulo
  | .symbol .atSign => some .matrixMultiply
  | _ => none

def sumOp? : Token → Option BinaryOp
  | .symbol .plus => some .add
  | .symbol .minus => some .subtract
  | _ => none

def shiftOp? : Token → Option BinaryOp
  | .symbol .leftShift => some .leftShift
  | .symbol .rightShift => some .rightShift
  | _ => none

def term (nested : Nested) : Reader Expr := leftGrouped termOp? (factor nested)

def sum (nested : Nested) : Reader Expr := leftGrouped sumOp? (term nested)

def shift (nested : Nested) : Reader Expr := leftGrouped shiftOp? (sum nested)

def bitAnd (nested : Nested) : Reader Expr :=
  leftGrouped (fun token => if token = .symbol .ampersand then some .bitAnd else none)
    (shift nested)

def bitXor (nested : Nested) : Reader Expr :=
  leftGrouped (fun token => if token = .symbol .caret then some .bitXor else none)
    (bitAnd nested)

def bitOr (nested : Nested) : Reader Expr :=
  leftGrouped (fun token => if token = .symbol .bar then some .bitOr else none) (bitXor nested)

def comparisonOp : Reader Comparison := do
  match ← peek, ← peekSecond with
  | some (.symbol .equal), _ => do skip 1; return .equal
  | some (.symbol .notEqual), _ => do skip 1; return .notEqual
  | some (.symbol .less), _ => do skip 1; return .less
  | some (.symbol .lessEqual), _ => do skip 1; return .lessEqual
  | some (.symbol .greater), _ => do skip 1; return .greater
  | some (.symbol .greaterEqual), _ => do skip 1; return .greaterEqual
  | some (.keyword .isWord), some (.keyword .notWord) => do skip 2; return .isNot
  | some (.keyword .isWord), _ => do skip 1; return .is
  | some (.keyword .inWord), _ => do skip 1; return .isIn
  | some (.keyword .notWord), some (.keyword .inWord) => do skip 2; return .notIn
  | _, _ => failure

def comparison (nested : Nested) : Reader Expr := do
  let first ← bitOr nested
  let rest ← many (do
    let op ← comparisonOp
    return (op, ← bitOr nested))
  return if rest.isEmpty then first else .compare first rest

def inversion (nested : Nested) : Reader Expr := do
  if ← acceptKeyword .notWord then return .unary .not (← nested.inversion)
  else comparison nested

def conjunction (nested : Nested) : Reader Expr := do
  let operands ← separated (.keyword .andWord) (inversion nested)
  match operands with
  | [operand] => return operand
  | _ => return .logical .and operands

def disjunction (nested : Nested) : Reader Expr := do
  let operands ← separated (.keyword .orWord) (conjunction nested)
  match operands with
  | [operand] => return operand
  | _ => return .logical .or operands

def lambda (nested : Nested) : Reader Expr := do
  keyword .lambdaWord
  let found ← parameters nested false .colon
  symbol .colon
  return .lambda found (← nested.expression)

def expression (nested : Nested) : Reader Expr := do
  if ← nextIs (.keyword .lambdaWord) then lambda nested
  else
    let body ← disjunction nested
    if ← acceptKeyword .ifWord then
      let test ← nested.disjunction
      keyword .elseWord
      return .conditional test body (← nested.expression)
    else return body

end Grammar

/-- Readers for expressions up to the given depth. -/
def Nested.upTo : Nat → Nested
  | 0 => ⟨failure, failure, failure, failure, failure, failure⟩
  | depth + 1 =>
    let nested := Nested.upTo depth
    { expression := Grammar.expression nested
      disjunction := Grammar.disjunction nested
      inversion := Grammar.inversion nested
      bitOr := Grammar.bitOr nested
      factor := Grammar.factor nested
      primary := Grammar.primary nested }

/-- One expression, or several that make a tuple, with nothing but line breaks after it. -/
def parseExpression (source : Text) : Option Expr := do
  let tokens ← Lexer.expressionTokens source
  let nested := Nested.upTo (source.length + 1)
  let ((items, comma), rest) ← commaList nested.expression tokens
  guard (rest.all (· == .newline))
  return Grammar.tupleOf items comma

end Stencil.Script
