import Stencil.Script.Scope

/-!
What code has to satisfy before any of it runs: jumps have a loop, returns a function, declared
names an owner, and stars a list to be spread in.
-/

set_option autoImplicit false

namespace Stencil.Script.Check

/-- Where a piece of code stands. -/
structure Place where
  inFunction : Bool
  inAsync : Bool
  inClass : Bool
  inLoop : Bool
  /-- How many loops, handlers and managers are around. -/
  blocks : Nat
  /-- The names of the enclosing functions, from the innermost. -/
  owners : List (List Text)
  /-- The names that the comprehensions around bind by themselves. -/
  iterated : List Text

def Place.module : Place := ⟨false, false, false, false, 0, [], []⟩

def maximalBlocks : Nat := 20

def distinct (names : List Text) : Bool := names.eraseDups.length == names.length

/-- The name that no code may bind. -/
def reserved : Text := "__debug__".toList

def isStarred : Expr → Bool
  | .starred _ => true
  | _ => false

/-- Whether the parts of an expression may have a star. -/
def spreads : Expr → Bool
  | .tuple _ => true
  | .list _ => true
  | .set _ => true
  | .call _ _ => true
  | _ => false

def keywordNames (arguments : List (Argument Expr)) : List Text :=
  arguments.filterMap fun argument =>
    match argument with
    | .keyword name _ => some name
    | _ => none

def iterationNames (clauses : List (Clause Expr)) : List Text :=
  clauses.flatMap fun clause => clause.target.bindings true

def isAsyncComprehension (clauses : List (Clause Expr)) : Bool := clauses.any (·.async)

/-- What an expression has to satisfy apart from its parts. -/
def own (place : Place) : Expr → Bool
  | .named target _ => target != reserved && !place.iterated.contains target
  | .await _ => place.inAsync
  | .yield _ => place.inFunction && place.iterated.isEmpty
  | .yieldFrom _ => place.inFunction && !place.inAsync && place.iterated.isEmpty
  | .call _ arguments => distinct (keywordNames arguments)
  | .lambda parameters _ => distinct parameters.names && !parameters.names.contains reserved
  | .comprehension kind _ _ clauses =>
      (clauses.all fun clause => (clause.iterable.bindings false).isEmpty) &&
        (!isAsyncComprehension clauses || place.inAsync || kind == .generator)
  | _ => true

/-- The place of the parts of an expression. -/
def below (place : Place) : Expr → Place
  | .lambda _ _ =>
      { place with inFunction := true, inAsync := false, inLoop := false, iterated := [] }
  | .comprehension _ _ _ clauses =>
      { place with iterated := place.iterated ++ iterationNames clauses }
  | _ => place

def expression (place : Place) (expr : Expr) : Bool :=
  own place expr && expr.children.attach.all fun child =>
    (spreads expr || !isStarred child.val) && expression (below place expr) child.val
termination_by sizeOf expr
decreasing_by exact Expr.sizeOf_lt_of_mem_children child.property

/-- An expression that stands by itself has no star. -/
def value (place : Place) (expr : Expr) : Bool := !isStarred expr && expression place expr

/-- Whether every list of targets has one star at most. -/
def starsFit (target : Expr) : Bool :=
  match target with
  | .tuple items => oneStar items && items.attach.all fun item => starsFit item.val
  | .list items => oneStar items && items.attach.all fun item => starsFit item.val
  | .starred held => starsFit held
  | _ => true
termination_by sizeOf target
decreasing_by
  all_goals simp_wf
  all_goals first
    | omega
    | (have bound := List.sizeOf_lt_of_mem item.property; omega)
where
  oneStar (items : List Expr) : Bool := (items.filter isStarred).length ≤ 1

def target (place : Place) (expr : Expr) : Bool :=
  value place expr && starsFit expr && !(expr.bindings true).contains reserved

def parameters (found : Parameters Expr) : Bool :=
  distinct found.names && !found.names.contains reserved

/-- Whether the handlers that catch everything come last. -/
def handlersFit (handlers : List (Handler Stmt)) : Bool :=
  handlers.dropLast.all fun handler => handler.type.isSome

/-- Whether a pattern matches whatever it meets. -/
def irrefutable : Pattern → Bool
  | .capture _ => true
  | .as pattern _ => irrefutable pattern
  | .either options => anyIrrefutable options
  | _ => false
where
  anyIrrefutable : List Pattern → Bool
    | [] => false
    | option :: rest => irrefutable option || anyIrrefutable rest

def casesFit (cases : List (Case Stmt)) : Bool :=
  (cases.dropLast.all fun one => !(irrefutable one.pattern && one.guard.isNone)) &&
    cases.all fun one => distinct one.pattern.bindings ||
      match one.pattern with
      | .either _ => true
      | _ => false

/-- The module whose features change the language; only the top of a module may name them. -/
def futureModule : Text := "__future__".toList

def futureFeatures : List Text :=
  ["nested_scopes".toList, "generators".toList, "division".toList, "absolute_import".toList,
    "with_statement".toList, "print_function".toList, "unicode_literals".toList,
    "barry_as_FLUFL".toList, "generator_stop".toList, "annotations".toList]

/-- Whether every name that is declared to belong to an enclosing function does. -/
def ownersFit (place : Place) (scope : Scope) : Bool :=
  scope.nonlocals.all fun name => place.owners.any fun owner => owner.contains name

/-- The names that expressions mention. -/
def mentioned (expr : Expr) : List Text :=
  expr.ownNames true ++ expr.children.attach.flatMap fun child => mentioned child.val
termination_by sizeOf expr
decreasing_by exact Expr.sizeOf_lt_of_mem_children child.property

/-- The names that a statement mentions, without those of inner functions. -/
def mentionedIn (statement : Stmt) : List Text :=
  statement.plainBindings ++
    (statement.targets ++ statement.values ++ statement.definitionValues).flatMap mentioned ++
    statement.blocks.attach.flatMap fun inner => mentionedIn inner.val
termination_by sizeOf statement
decreasing_by
  exact Stmt.sizeOf_lt_of_mem_children (Stmt.mem_children_of_mem_blocks inner.property)

/-- The names declared in a statement to belong elsewhere. -/
def declaredIn (statement : Stmt) : List Text :=
  statement.declared true ++ statement.declared false

/-- Whether names are declared before they are mentioned, running over statements in order. -/
def declaredFirst (seen : List Text) : List Stmt → Bool
  | [] => true
  | statement :: rest =>
    (declaredIn statement).all (fun name => !seen.contains name) &&
      declaredFirst (seen ++ mentionedIn statement) rest

/-- Whether a function's names are declared consistently. -/
def scopeFits (place : Place) (parameters : List Text) (body : List Stmt) : Bool :=
  let scope := Scope.ofFunction parameters body
  ownersFit place scope && declaredFirst parameters body &&
    (scope.globals.all fun name => !scope.nonlocals.contains name)

/-- The place of a function's body. -/
def inside (place : Place) (parameters : List Text) (body : List Stmt) (async : Bool) : Place :=
  let scope := Scope.ofFunction parameters body
  let outer := if place.inFunction || !place.inClass then
      place.owners.map fun owner => owner.filter fun name => !scope.globals.contains name
    else place.owners
  { inFunction := true
    inAsync := async
    inClass := false
    inLoop := false
    blocks := 0
    owners := scope.locals :: outer
    iterated := [] }

def isEverything : Selection → Bool
  | .everything => true
  | .names _ => false

/-- What a statement has to satisfy apart from the statements in it. -/
def ownStatement (place : Place) (statement : Stmt) : Bool :=
  (statement.targets.all (target place)) &&
    (statement.values.all (value place)) &&
    (statement.definitionValues.all (expression place)) &&
    !(statement.plainBindings.contains reserved) &&
    match statement with
    | .breakLoop => place.inLoop
    | .continueLoop => place.inLoop
    | .returnValue _ => place.inFunction
    | .nonlocalNames _ => place.inFunction || place.inClass
    | .importNames _ path selection =>
        (!isEverything selection || !(place.inFunction || place.inClass)) &&
          (path != [futureModule] || !place.inFunction && match selection with
            | .everything => false
            | .names names => names.all fun one => futureFeatures.any fun name => one.path == [name])
    | .tryBlock _ handlers _ _ _ => handlersFit handlers && place.blocks < maximalBlocks
    | .matchBlock _ cases => casesFit cases
    | .whileLoop _ _ _ => place.blocks < maximalBlocks
    | .forLoop _ _ _ _ async => place.blocks < maximalBlocks && (!async || place.inAsync)
    | .withBlock items _ async =>
        place.blocks + items.length ≤ maximalBlocks && (!async || place.inAsync)
    | .functionDef _ found _ body _ _ =>
        parameters found && scopeFits place found.names body
    | .classDef _ arguments body _ =>
        distinct (keywordNames arguments) && scopeFits place [] body
    | _ => true

def looping (place : Place) : Place := { place with inLoop := true, blocks := place.blocks + 1 }

def deeper (count : Nat) (place : Place) : Place := { place with blocks := place.blocks + count }

mutual

/-- Whether a statement and all statements in it stand where they may. -/
def statement (place : Place) : Stmt → Bool
  | .branch test body alternative =>
      ownStatement place (.branch test [] []) && statements place body &&
        statements place alternative
  | .whileLoop test body alternative =>
      ownStatement place (.whileLoop test [] []) && statements (looping place) body &&
        statements place alternative
  | .forLoop bound iterable body alternative async =>
      ownStatement place (.forLoop bound iterable [] [] async) &&
        statements (looping place) body && statements place alternative
  | .withBlock items body async =>
      ownStatement place (.withBlock items [] async) &&
        statements (deeper items.length place) body
  | .tryBlock body handlers alternative final grouped =>
      ownStatement place (.tryBlock body handlers alternative final grouped) &&
        statements (deeper 1 place) body && handlersOf (deeper 1 place) handlers &&
        statements place alternative && statements place final
  | .matchBlock subject cases =>
      ownStatement place (.matchBlock subject cases) && casesOf place cases
  | .functionDef name found returns body decorators async =>
      ownStatement place (.functionDef name found returns body decorators async) &&
        statements (inside place found.names body async) body
  | .classDef name arguments body decorators =>
      ownStatement place (.classDef name arguments body decorators) &&
        statements { place with
          inFunction := false, inAsync := false, inClass := true, inLoop := false,
          blocks := 0, iterated := [] } body
  | other => ownStatement place other

def statements (place : Place) : List Stmt → Bool
  | [] => true
  | first :: rest => statement place first && statements place rest

def handlersOf (place : Place) : List (Handler Stmt) → Bool
  | [] => true
  | ⟨_, _, body⟩ :: rest => statements place body && handlersOf place rest

def casesOf (place : Place) : List (Case Stmt) → Bool
  | [] => true
  | ⟨_, _, body⟩ :: rest => statements place body && casesOf place rest

end

end Check

/-- Whether a module may run. -/
def isValidModule (module : List Stmt) : Bool :=
  Check.statements .module module && Check.declaredFirst [] module

/-- The statements of a source that may run. -/
def loadModule (source : Text) : Except CodeFault (List Stmt) := do
  let module ← readModule source
  if isValidModule module then return module else .error .malformed

end Stencil.Script
