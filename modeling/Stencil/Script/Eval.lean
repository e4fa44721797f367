import Stencil.Script.Builtin
import Stencil.Script.Check

/-!
Running code. The first argument of each function bounds the depth of what it does; a run that
reaches the bound fails.
-/

set_option autoImplicit false

namespace Stencil.Script

/-- The functions around a piece of running code, from the innermost, the place of the global
variables, and how many calls deep it runs. -/
structure Env where
  frames : List Frame
  globals : Nat
  depth : Nat

def maximalCalls : Nat := 950

namespace Names

def globalValue (globals : Nat) (name : Text) : Run Value := do
  match findName? name (← Run.bindings globals) with
  | some value => return value
  | none =>
    match Builtin.ofName? name with
    | some builtin => return .builtin builtin
    | none => Run.fail .nameUnbound

/-- The value of a name that belongs to a function around. -/
def freeValue (globals : Nat) (name : Text) : List Frame → Run Value
  | [] => globalValue globals name
  | frame :: outer => do
    if frame.globals.contains name then globalValue globals name
    else if frame.locals.contains name then
      match findName? name (← Run.bindings frame.place) with
      | some value => return value
      | none => Run.fail .nameUnbound
    else freeValue globals name outer

/-- The value of a name; one that is local and has none yet hides those around. -/
def value (name : Text) (env : Env) : Run Value := do
  match env.frames with
  | [] => globalValue env.globals name
  | frame :: outer =>
    if frame.globals.contains name then globalValue env.globals name
    -- Being assigned anywhere in the function makes a name local to all of it.
    else if frame.locals.contains name then
      match findName? name (← Run.bindings frame.place) with
      | some value => return value
      | none => Run.fail .localUnbound
    else freeValue env.globals name outer

/-- Where a name is kept. -/
def owner (globals : Nat) (name : Text) : List Frame → Nat
  | [] => globals
  | frame :: outer =>
    if frame.globals.contains name then globals
    else if frame.locals.contains name then frame.place
    else owner globals name outer

def store (name : Text) (value : Value) (env : Env) : Run Unit := do
  let place := owner env.globals name env.frames
  Run.replace place (.bindings (bindName name value (← Run.bindings place)))

def remove (name : Text) (env : Env) : Run Unit := do
  -- A name without a value cannot be removed.
  let _ ← value name env
  let place := owner env.globals name env.frames
  Run.replace place (.bindings ((← Run.bindings place).filter fun entry => entry.1 != name))

end Names

/-- How a statement ends. -/
inductive Flow where
  | next
  | broke
  | continued
  | returned (value : Value)

/-- How a loop ends: by itself, or by a jump. -/
inductive LoopEnd where
  | finished
  | broken
  | returned (value : Value)

/-- What is left to loop over. A list may still change, the keys of a dictionary may not. -/
inductive Cursor where
  | items (items : List Value)
  | counted (start : Int) (count : Nat) (step : Int)
  | live (place index : Nat)
  | keys (place size : Nat) (waiting : List Value)

def Cursor.of (value : Value) : Run Cursor := do
  match value with
  | .list place => return .live place 0
  | .dict place =>
    let entries ← Run.dictEntries place
    return .keys place entries.length (entries.map (·.1))
  | .range start stop step => return .counted start (rangeLength start stop step) step
  | other => return .items (← other.elements)

def Cursor.next? (cursor : Cursor) : Run (Option (Value × Cursor)) := do
  match cursor with
  | items [] => return none
  | items (first :: rest) => return some (first, items rest)
  | counted _ 0 _ => return none
  | counted start (count + 1) step =>
    return some (.integer start, counted (start + step) count step)
  | live place index =>
    match (← Run.listItems place)[index]? with
    | some value => return some (value, live place (index + 1))
    | none => return none
  | keys place size waiting => do
    if (← Run.dictEntries place).length ≠ size then Run.fail .changed
    match waiting with
    | [] => return none
    | first :: rest => return some (first, keys place size rest)

/-- How often a loop looks for its next value: once for each and once more, or up to a bound where
there may come more of them. -/
def Cursor.looks (bound : Nat) : Cursor → Nat
  | .items values => values.length + 1
  | .counted _ count _ => count + 1
  | .live _ _ => bound
  | .keys _ _ waiting => waiting.length + 1

/-- Takes a turn with each value. However many there are, a turn is no deeper than the loop. -/
def repeatOver (turn : Value → Run Flow) : Nat → Cursor → Run LoopEnd
  | 0, _ => Run.fail .tooDeep
  | looks + 1, cursor => do
    match ← cursor.next? with
    | none => return .finished
    | some (value, rest) => do
      match ← turn value with
      | .broke => return .broken
      | .returned value => return .returned value
      | _ => repeatOver turn looks rest

def constantValue : Constant → Value
  | .none => .none
  | .bool value => .bool value
  | .ellipsis => .datum .ellipsis
  | .integer value => .integer value
  | .real value => .real value.toFloat
  | .imaginary value => .datum (.complex 0.0 value.toFloat)
  | .string value => .ofPoints value
  | .bytes value => .datum (.bytes value)

/-! ### Calls -/

/-- The parameters that positional values go to, in order. -/
def positionalNames (parameters : Parameters Expr) : List Text :=
  (parameters.positionalOnly ++ parameters.regular).map (·.name)

def keywordNames (parameters : Parameters Expr) : List Text :=
  (parameters.regular ++ parameters.keywordOnly).map (·.name)

/-- Binds the values of keywords; those without a parameter are collected. -/
def bindKeywords (parameters : Parameters Expr) (bound : List (Text × Value)) :
    List (Text × Value) → Run (List (Text × Value) × List (Text × Value))
  | [] => return (bound, [])
  | (name, value) :: rest => do
    if (keywordNames parameters).contains name then
      -- A parameter takes one value only.
      if (findName? name bound).isSome then Run.fail .wrongType
      bindKeywords parameters (bound ++ [(name, value)]) rest
    else if parameters.keywords.isSome then
      let (bound, others) ← bindKeywords parameters bound rest
      return (bound, (name, value) :: others)
    else Run.fail .wrongType

/-- Binds what is left to its default. -/
def bindDefaults (defaults bound : List (Text × Value)) :
    List Text → Run (List (Text × Value))
  | [] => return bound
  | name :: rest => do
    if (findName? name bound).isSome then bindDefaults defaults bound rest
    else
      match findName? name defaults with
      | some value => bindDefaults defaults (bound ++ [(name, value)]) rest
      | none => Run.fail .wrongType

def textKeys (entries : List (Text × Value)) : List (Value × Value) :=
  entries.map fun entry => (.text entry.1, entry.2)

/-- The variables that a call starts with. -/
def bindParameters (function : Function) (arguments : List Value)
    (keywords : List (Text × Value)) : Run (List (Text × Value)) := do
  let parameters := function.parameters
  let names := positionalNames parameters
  let extra := arguments.drop names.length
  if !extra.isEmpty && parameters.rest.isNone then Run.fail .wrongType
  let (bound, others) ← bindKeywords parameters (names.zip arguments) keywords
  let bound ← bindDefaults function.defaults bound
    (names ++ parameters.keywordOnly.map (·.name))
  let bound := match parameters.rest with
    | some parameter => bound ++ [(parameter.name, .tuple extra)]
    | none => bound
  match parameters.keywords with
  | some parameter => do
    let place ← Run.allocate (.dict (textKeys others))
    return bound ++ [(parameter.name, .dict place)]
  | none => return bound

/-- The entries of a mapping that is spread over a call. -/
def spreadKeywords (value : Value) : Run (List (Text × Value)) := do
  match value with
  | .dict place =>
    (← Run.dictEntries place).mapM fun entry =>
      match entry.1 with
      | .text name => return (name, entry.2)
      | _ => Run.fail .wrongType
  | _ => Run.fail .wrongType

/-- Brings names of another module in; of those there is one. -/
def bringIn (env : Env) (path : List Text) (names : List Import) : Run Unit := do
  match path, names with
  | [module], [one] =>
    if module = "html".toList ∧ one.path = ["escape".toList] then
      Names.store (one.newName.getD "escape".toList) (.builtin .escape) env
    else Run.fail .unsupported
  | _, _ => Run.fail .unsupported

/-- The entries that a dictionary has so far, and those that wait. With many entries none waits. -/
structure Gathering where
  found : List (Value × Value)
  waiting : List (Value × Value)
  many : Bool

namespace Gathering

def insert (found : List (Value × Value)) (entry : Value × Value) :
    Run (List (Value × Value)) := do
  if !entry.1.isKey then Run.fail .wrongType
  Value.insertKey entry.1 entry.2 found

def settle (gathering : Gathering) : Run (List (Value × Value)) :=
  gathering.waiting.foldlM insert gathering.found

def add (gathering : Gathering) (key value : Value) : Run Gathering := do
  if gathering.many then return { gathering with found := ← insert gathering.found (key, value) }
  else return { gathering with waiting := gathering.waiting ++ [(key, value)] }

end Gathering

/-- Whether more entries than can wait stand before the next mapping that is spread. -/
def hasManyEntries (items : List (DictItem Expr)) : Bool :=
  15 < (items.takeWhile fun item =>
    match item with
    | .entry _ _ => true
    | .mapping _ => false).length

/-- Splits values over targets of which one may take several. -/
def distribute (targets : List Expr) (values : List Value) : Run (List (Expr × Value)) := do
  let before := targets.takeWhile (!Check.isStarred ·)
  match targets.drop before.length with
  | [] =>
    if values.length = targets.length then return targets.zip values
    else Run.fail .wrongValue
  | star :: after =>
    if values.length < before.length + after.length then Run.fail .wrongValue
    -- The starred target takes what the others leave.
    let taken := values.length - before.length - after.length
    let held ← Run.newList ((values.drop before.length).take taken)
    let target := match star with
      | .starred target => target
      | other => other
    return before.zip values ++ (target, held) :: after.zip (values.drop (before.length + taken))

/-- Runs statements in order, up to the first that jumps. -/
def inOrder (run : Stmt → Run Flow) : List Stmt → Run Flow
  | [] => return .next
  | statement :: rest => do
    match ← run statement with
    | .next => inOrder run rest
    | jump => return jump

mutual

def eval : Nat → Env → Expr → Run Value
  | 0, _, _ => Run.fail .tooDeep
  | fuel + 1, env, expr => do
    match expr with
    | .constant value => return constantValue value
    | .name id => Names.value id env
    | .tuple items => return .tuple (← evalAll fuel env items)
    | .list items => Run.newList (← evalAll fuel env items)
    | .dict items => do
      let found ← evalEntries fuel env ⟨[], [], hasManyEntries items⟩ items
      return .dict (← Run.allocate (.dict found))
    | .unary op operand => Value.unary op (← eval fuel env operand)
    | .binary op left right => do
      let left ← eval fuel env left
      Value.binary op left (← eval fuel env right)
    | .logical op operands => evalLogical fuel env op operands
    | .compare first rest => evalCompare fuel env (← eval fuel env first) rest
    | .conditional test body alternative => do
      if ← (← eval fuel env test).truthy then eval fuel env body
      else eval fuel env alternative
    | .lambda parameters body =>
      makeFunction fuel env parameters [.returnValue (some body)]
    | .call function arguments => do
      let function ← eval fuel env function
      let (values, keywords) ← evalArguments fuel env arguments
      call fuel env.depth function values keywords
    | .attributeOf object name => Builtin.member (← eval fuel env object) name
    | .subscript object (.slice lower upper step) => do
      let object ← eval fuel env object
      let lower ← evalBound fuel env lower
      let upper ← evalBound fuel env upper
      Value.slice object lower upper (← evalBound fuel env step)
    | .subscript object index => do
      let object ← eval fuel env object
      Value.subscript object (← eval fuel env index)
    | .named target value => do
      let value ← eval fuel env value
      Names.store target value env
      return value
    | .formatted parts => return .ofPoints (← evalParts fuel env parts)
    | _ => Run.fail .unsupported

def evalBound : Nat → Env → Option Expr → Run Value
  | 0, _, _ => Run.fail .tooDeep
  | _ + 1, _, none => return .none
  | fuel + 1, env, some expr => eval fuel env expr

/-- The values of items, of which one with a star gives several. -/
def evalAll : Nat → Env → List Expr → Run (List Value)
  | 0, _, _ => Run.fail .tooDeep
  | _ + 1, _, [] => return []
  | fuel + 1, env, .starred item :: rest => do
    let items ← (← eval fuel env item).elements
    return items ++ (← evalAll fuel env rest)
  | fuel + 1, env, item :: rest => do
    let value ← eval fuel env item
    return value :: (← evalAll fuel env rest)

/-- The entries of a dictionary. Keys are looked at once the entries around them have values. -/
def evalEntries : Nat → Env → Gathering → List (DictItem Expr) → Run (List (Value × Value))
  | 0, _, _, _ => Run.fail .tooDeep
  | _ + 1, _, gathering, [] => gathering.settle
  | fuel + 1, env, gathering, .entry key value :: rest => do
    let key ← eval fuel env key
    let value ← eval fuel env value
    evalEntries fuel env (← gathering.add key value) rest
  | fuel + 1, env, gathering, .mapping value :: rest => do
    let found ← gathering.settle
    match ← eval fuel env value with
    | .dict place => do
      let added ← Run.dictEntries place
      let found ← added.foldlM (fun found entry => Value.insertKey entry.1 entry.2 found) found
      evalEntries fuel env ⟨found, [], hasManyEntries rest⟩ rest
    | _ => Run.fail .wrongType

/-- The last value that was needed to decide. -/
def evalLogical : Nat → Env → Connective → List Expr → Run Value
  | 0, _, _, _ => Run.fail .tooDeep
  | _ + 1, _, _, [] => return .none
  | fuel + 1, env, _, [operand] => eval fuel env operand
  | fuel + 1, env, op, operand :: rest => do
    let value ← eval fuel env operand
    -- The first true value decides a disjunction, the first false one a conjunction.
    if (← value.truthy) == (op == .or) then return value
    else evalLogical fuel env op rest

/-- A chain of comparisons, which ends at the first that fails. -/
def evalCompare : Nat → Env → Value → List (Comparison × Expr) → Run Value
  | 0, _, _, _ => Run.fail .tooDeep
  | _ + 1, _, _, [] => return .bool true
  | fuel + 1, env, left, (op, right) :: rest => do
    let right ← eval fuel env right
    if ← Value.compareBy op left right then evalCompare fuel env right rest
    else return .bool false

def evalArguments : Nat → Env → List (Argument Expr) →
    Run (List Value × List (Text × Value))
  | 0, _, _ => Run.fail .tooDeep
  | _ + 1, _, [] => return ([], [])
  | fuel + 1, env, argument :: rest => do
    match argument with
    | .positional (.starred value) => do
      let items ← (← eval fuel env value).elements
      let (values, keywords) ← evalArguments fuel env rest
      return (items ++ values, keywords)
    | .positional value => do
      let value ← eval fuel env value
      let (values, keywords) ← evalArguments fuel env rest
      return (value :: values, keywords)
    | .keyword name value => do
      let value ← eval fuel env value
      let (values, keywords) ← evalArguments fuel env rest
      return (values, (name, value) :: keywords)
    | .mapping value => do
      let spread ← spreadKeywords (← eval fuel env value)
      let (values, keywords) ← evalArguments fuel env rest
      return (values, spread ++ keywords)

/-- The text of a formatted string whose fields have no formats. -/
def evalParts : Nat → Env → List (FormatPart Expr) → Run Points
  | 0, _, _ => Run.fail .tooDeep
  | _ + 1, _, [] => return []
  | fuel + 1, env, .fixed points :: rest => return points ++ (← evalParts fuel env rest)
  | fuel + 1, env, .field value conversion format :: rest => do
    if format.isSome then Run.fail .unsupported
    let value ← eval fuel env value
    let text ← match conversion with
      | some 'r' => do pure (Points.ofText (← value.shown))
      | some 'a' => do pure (Points.ofText (Field.asciiText (← value.shown)))
      | _ => value.displayPoints
    return text ++ (← evalParts fuel env rest)

/-- A function with the defaults that its parameters have now. -/
def makeFunction : Nat → Env → Parameters Expr → List Stmt → Run Value
  | 0, _, _, _ => Run.fail .tooDeep
  | fuel + 1, env, parameters, body => do
    let defaults ← evalDefaults fuel env parameters.all
    let place ← Run.allocate (.function
      { parameters := parameters
        defaults := defaults
        body := body
        scope := Scope.ofFunction parameters.names body
        outer := env.frames
        globals := env.globals })
    return .function place

def evalDefaults : Nat → Env → List (Parameter Expr) → Run (List (Text × Value))
  | 0, _, _ => Run.fail .tooDeep
  | _ + 1, _, [] => return []
  | fuel + 1, env, parameter :: rest => do
    match parameter.default with
    | none => evalDefaults fuel env rest
    | some expr => do
      let value ← eval fuel env expr
      return (parameter.name, value) :: (← evalDefaults fuel env rest)

def call : Nat → Nat → Value → List Value → List (Text × Value) → Run Value
  | 0, _, _, _, _ => Run.fail .tooDeep
  | fuel + 1, depth, function, arguments, keywords => do
    match function, arguments, keywords with
    | .function place, arguments, keywords => do
      if maximalCalls ≤ depth then Run.fail .tooDeep
      let function ← Run.functionAt place
      let bound ← bindParameters function arguments keywords
      let place ← Run.allocate (.bindings bound)
      let frame : Frame := ⟨place, function.scope.locals, function.scope.globals⟩
      match ← execAll fuel ⟨frame :: function.outer, function.globals, depth + 1⟩ function.body with
      | .returned value => return value
      | _ => return .none
    | .builtin builtin, arguments, keywords => Builtin.apply builtin arguments keywords
    | .method receiver method, arguments, keywords =>
      Builtin.applyMethod receiver method arguments keywords
    | .pageMethod .wrap, [block], [] => do
      let _ ← call fuel depth block [] []
      return .text "wrapped".toList
    | .pageMethod .twice, [block], [] => do
      let _ ← call fuel depth block [] []
      let _ ← call fuel depth block [] []
      return .integer 2
    | .pageMethod .skip, [_], [] => return .text "skipped".toList
    | .pageMethod .around, [value], [] => return .giver value
    | .giver value, [block], [] => do
      let _ ← call fuel depth block [] []
      return value
    | _, _, _ => Run.fail .wrongType

/-- Gives a value to a target. -/
def assign : Nat → Env → Expr → Value → Run Unit
  | 0, _, _, _ => Run.fail .tooDeep
  | fuel + 1, env, target, value => do
    match target with
    | .name id => Names.store id value env
    | .attributeOf object name => Builtin.setMember (← eval fuel env object) name value
    | .subscript _ (.slice _ _ _) => Run.fail .unsupported
    | .subscript object index => do
      let object ← eval fuel env object
      Value.storeItem object (← eval fuel env index) value
    | .tuple items => do
      assignAll fuel env (← distribute items (← value.elements))
    | .list items => do
      assignAll fuel env (← distribute items (← value.elements))
    | _ => Run.fail .unsupported

def assignAll : Nat → Env → List (Expr × Value) → Run Unit
  | 0, _, _ => Run.fail .tooDeep
  | _ + 1, _, [] => return ()
  | fuel + 1, env, (target, value) :: rest => do
    assign fuel env target value
    assignAll fuel env rest

def delete : Nat → Env → List Expr → Run Unit
  | 0, _, _ => Run.fail .tooDeep
  | _ + 1, _, [] => return ()
  | fuel + 1, env, target :: rest => do
    match target with
    | .name id => Names.remove id env
    | .subscript object index => do
      let object ← eval fuel env object
      Value.removeItem object (← eval fuel env index)
    | .tuple items => delete fuel env items
    | .list items => delete fuel env items
    | _ => Run.fail .unsupported
    delete fuel env rest

def exec : Nat → Env → Stmt → Run Flow
  | 0, _, _ => Run.fail .tooDeep
  | fuel + 1, env, statement => do
    match statement with
    | .expression value => do
      let _ ← eval fuel env value
      return .next
    | .assign targets value => do
      let value ← eval fuel env value
      assignAll fuel env (targets.map fun target => (target, value))
      return .next
    | .augmented (.name id) op value => do
      let held ← Names.value id env
      let value ← eval fuel env value
      Names.store id (← Value.augmented op held value) env
      return .next
    | .augmented (.attributeOf object name) op value => do
      let object ← eval fuel env object
      let held ← Builtin.member object name
      let value ← eval fuel env value
      Builtin.setMember object name (← Value.augmented op held value)
      return .next
    | .augmented (.subscript object index) op value => do
      let object ← eval fuel env object
      let index ← eval fuel env index
      let held ← Value.subscript object index
      let value ← eval fuel env value
      Value.storeItem object index (← Value.augmented op held value)
      return .next
    | .annotated target _ (some value) _ => do
      assign fuel env target (← eval fuel env value)
      return .next
    | .annotated _ _ none _ => return .next
    | .delete targets => do
      delete fuel env targets
      return .next
    | .pass => return .next
    | .breakLoop => return .broke
    | .continueLoop => return .continued
    | .returnValue none => return .returned .none
    | .returnValue (some value) => return .returned (← eval fuel env value)
    | .assertion test _ => do
      if ← (← eval fuel env test).truthy then return .next else Run.fail .assertion
    | .globalNames _ => return .next
    | .nonlocalNames _ => return .next
    | .importNames 0 path (.names names) => do
      bringIn env path names
      return .next
    | .branch test body alternative => do
      if ← (← eval fuel env test).truthy then execAll fuel env body
      else execAll fuel env alternative
    | .whileLoop test body alternative => do
      match ← repeatWhile fuel env test body with
      | .finished => execAll fuel env alternative
      | .broken => return .next
      | .returned value => return .returned value
    | .forLoop target iterable body alternative false => do
      let cursor ← Cursor.of (← eval fuel env iterable)
      let turn (value : Value) : Run Flow := do
        assign fuel env target value
        execAll fuel env body
      match ← repeatOver turn (cursor.looks fuel) cursor with
      | .finished => execAll fuel env alternative
      | .broken => return .next
      | .returned value => return .returned value
    | .functionDef name parameters _ body [] false => do
      Names.store name (← makeFunction fuel env parameters body) env
      return .next
    | _ => Run.fail .unsupported

/-- However many statements stand in a row, they are no deeper than one of them. -/
def execAll : Nat → Env → List Stmt → Run Flow
  | 0, _, _ => Run.fail .tooDeep
  | fuel + 1, env, statements => inOrder (exec fuel env) statements

def repeatWhile : Nat → Env → Expr → List Stmt → Run LoopEnd
  | 0, _, _, _ => Run.fail .tooDeep
  | fuel + 1, env, test, body => do
    if ← (← eval fuel env test).truthy then
      match ← execAll fuel env body with
      | .broke => return .broken
      | .returned value => return .returned value
      | _ => repeatWhile fuel env test body
    else return .finished

end

/-- How deep a run may go. -/
def maximalDepth : Nat := 1000000000

/-- Runs a module with global variables of its own, and gives their place. -/
def runModule (module : List Stmt) : Run Nat := do
  let globals ← Run.allocate (.bindings [])
  let _ ← execAll maximalDepth ⟨[], globals, 0⟩ module
  return globals

/-- Calls a function from outside of any code. -/
def callFunction (function : Value) (arguments : List Value) : Run Value :=
  call maximalDepth 0 function arguments []

end Stencil.Script
