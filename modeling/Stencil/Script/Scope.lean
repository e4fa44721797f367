import Stencil.Script.Names

/-!
Which names belong to a function. A name is local where the function binds it in any way, unless
the function declares it to belong elsewhere. Assignments on the way inside a comprehension bind
in the function around it.
-/

set_option autoImplicit false

namespace Stencil.Script

/-- The expressions that are evaluated where an expression stands, or in a comprehension there. -/
def Expr.inner : Expr → List Expr
  | lambda parameters _ => parameters.defaults
  | other => other.children

theorem Expr.mem_children_of_mem_inner {child expr : Expr} (member : child ∈ expr.inner) :
    child ∈ expr.children := by
  cases expr <;> simp_all [inner, children]

/-- The names that an expression binds in the function it stands in. -/
def Expr.bindings (stored : Bool) (expr : Expr) : List Text :=
  expr.ownNames stored ++
    expr.inner.attach.flatMap fun child =>
      child.val.bindings (stored && expr.distributes)
termination_by sizeOf expr
decreasing_by
  exact Expr.sizeOf_lt_of_mem_children (Expr.mem_children_of_mem_inner child.property)

theorem Expr.bindings_eq (stored : Bool) (expr : Expr) :
    expr.bindings stored = expr.ownNames stored ++
      expr.inner.flatMap fun child => child.bindings (stored && expr.distributes) := by
  rw [Expr.bindings]
  simp [List.flatMap_subtype]

mutual

/-- The names that a pattern binds. -/
def Pattern.bindings : Pattern → List Text
  | .constant _ => []
  | .capture name => name.toList
  | .star name => name.toList
  | .sequence items => bindingsOfAll items
  | .mapping _ items rest => bindingsOfAll items ++ rest.toList
  | .instance _ items _ keywordItems => bindingsOfAll items ++ bindingsOfAll keywordItems
  | .either options => bindingsOfAll options
  | .as pattern name => name :: pattern.bindings

def bindingsOfAll : List Pattern → List Text
  | [] => []
  | pattern :: rest => pattern.bindings ++ bindingsOfAll rest

end

/-- The expressions that a statement binds or unbinds. A name in parentheses that only gets a type is
not bound. -/
def Stmt.boundTargets : Stmt → List Expr
  | delete targets => targets
  | annotated (.name _) _ none false => []
  | other => other.targets

/-- The expressions of a definition that are evaluated where the definition stands. -/
def Stmt.definitionValues : Stmt → List Expr
  | functionDef _ parameters returns _ decorators _ =>
      decorators ++ parameters.defaults ++ parameters.typings ++ returns.toList
  | classDef _ arguments _ decorators => decorators ++ arguments.map Argument.value
  | _ => []

/-- Names bound by a statement that are no expressions. -/
def Stmt.plainBindings : Stmt → List Text
  | tryBlock _ handlers _ _ _ => handlers.filterMap (·.name)
  | matchBlock _ cases => cases.flatMap fun one => one.pattern.bindings
  | other => other.ownNames

/-- The names that a statement binds in the function it stands in. -/
def Stmt.bindings (statement : Stmt) : List Text :=
  statement.plainBindings ++
    (statement.boundTargets.flatMap fun target => target.bindings true) ++
    (statement.values.flatMap fun value => value.bindings false) ++
    (statement.definitionValues.flatMap fun value => value.bindings false) ++
    statement.blocks.attach.flatMap fun inner => inner.val.bindings
termination_by sizeOf statement
decreasing_by
  exact Stmt.sizeOf_lt_of_mem_children (Stmt.mem_children_of_mem_blocks inner.property)

theorem Stmt.bindings_eq (statement : Stmt) :
    statement.bindings = statement.plainBindings ++
      (statement.boundTargets.flatMap fun target => target.bindings true) ++
      (statement.values.flatMap fun value => value.bindings false) ++
      (statement.definitionValues.flatMap fun value => value.bindings false) ++
      statement.blocks.flatMap fun inner => inner.bindings := by
  rw [Stmt.bindings]
  simp [List.flatMap_subtype]

/-- The names that a statement declares global, or to belong to an enclosing function. -/
def Stmt.declared (globals : Bool) (statement : Stmt) : List Text :=
  (match statement with
    | .globalNames names => if globals then names else []
    | .nonlocalNames names => if globals then [] else names
    | _ => []) ++
    statement.blocks.attach.flatMap fun inner => inner.val.declared globals
termination_by sizeOf statement
decreasing_by
  exact Stmt.sizeOf_lt_of_mem_children (Stmt.mem_children_of_mem_blocks inner.property)

/-- The names of a function, by where they belong. -/
structure Scope where
  locals : List Text
  globals : List Text
  nonlocals : List Text
deriving DecidableEq, Repr

/-- The scope of a function with the given parameters and body. -/
def Scope.ofFunction (parameters : List Text) (body : List Stmt) : Scope :=
  let globals := body.flatMap (Stmt.declared true)
  let nonlocals := body.flatMap (Stmt.declared false)
  let bound := parameters ++ body.flatMap Stmt.bindings
  ⟨(bound.filter fun name => !globals.contains name && !nonlocals.contains name).eraseDups,
    globals, nonlocals⟩

end Stencil.Script
