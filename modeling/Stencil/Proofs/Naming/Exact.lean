import Mathlib
import Stencil.Proofs.Text.Unique
import Stencil.Script.Scope

/-!
The names that a statement is found to bind, and those that it binds in a function. The search
looks into nothing that has names of its own, and it does not see the names that are no expressions.
-/

set_option autoImplicit false

namespace Stencil.Script

/-! ### Expressions -/

namespace Expr

/-- The names that an expression binds where it stands from within lambdas and comprehensions. -/
def hidden (expr : Expr) : List Text :=
  if expr.opensScope then expr.bindings false
  else expr.children.attach.flatMap fun child => child.val.hidden
termination_by sizeOf expr
decreasing_by exact Expr.sizeOf_lt_of_mem_children child.property

theorem hidden_eq (expr : Expr) :
    expr.hidden =
      if expr.opensScope then expr.bindings false
      else expr.children.flatMap fun child => child.hidden := by
  rw [hidden]
  simp [List.flatMap_subtype]

/-- What has names of its own is not assigned to. -/
theorem bindings_of_opensScope {expr : Expr} (opens : expr.opensScope = true) (stored : Bool) :
    expr.bindings stored = expr.bindings false := by
  rw [bindings_eq, bindings_eq]
  cases expr with
  | lambda => simp [ownNames, distributes]
  | comprehension => simp [ownNames, distributes]
  | _ => cases opens

theorem inner_of_not_opensScope {expr : Expr} (flat : ¬expr.opensScope = true) :
    expr.inner = expr.children := by
  cases expr with
  | lambda => exact absurd rfl flat
  | _ => rfl

variable {name : Text}

/-- An expression binds the names that are found and the hidden ones. -/
theorem mem_bindings_iff (stored : Bool) (expr : Expr) :
    name ∈ expr.bindings stored ↔ name ∈ expr.assigned stored ∨ name ∈ expr.hidden := by
  induction size : sizeOf expr using Nat.strongRecOn generalizing expr stored with
  | ind size ih =>
    subst size
    by_cases opens : expr.opensScope = true
    next => simp [assigned_eq, hidden_eq, opens, bindings_of_opensScope opens stored]
    next =>
      have below (child : Expr) (inside : child ∈ expr.children) (stored : Bool) :
          name ∈ child.bindings stored ↔ name ∈ child.assigned stored ∨ name ∈ child.hidden :=
        ih _ (sizeOf_lt_of_mem_children inside) stored child rfl
      rw [bindings_eq, assigned_eq, hidden_eq, if_neg opens, if_neg opens,
        inner_of_not_opensScope opens]
      simp only [List.mem_append, List.mem_flatMap, or_assoc, ← exists_or, ← and_or_left]
      refine or_congr_right (exists_congr fun child => and_congr_right fun inside => ?_)
      exact below child inside _

end Expr

/-! ### Statements -/

namespace Stmt

/-- The names that a statement binds by itself without being found to: those it deletes, those that
handlers and patterns give, and those that the head of a definition binds. -/
def ownHidden : Stmt → List Text
  | delete targets => targets.flatMap fun target => target.bindings true
  | tryBlock _ handlers _ _ _ => handlers.filterMap (·.name)
  | matchBlock _ cases => cases.flatMap fun one => one.pattern.bindings
  | other => other.definitionValues.flatMap fun value => value.bindings false

/-- The names that a statement binds without being found to. -/
def hidden (statement : Stmt) : List Text :=
  statement.ownHidden ++
    ((statement.targets ++ statement.values).flatMap fun part => part.hidden) ++
    statement.blocks.attach.flatMap fun inner => inner.val.hidden
termination_by sizeOf statement
decreasing_by
  exact Stmt.sizeOf_lt_of_mem_children (Stmt.mem_children_of_mem_blocks inner.property)

theorem hidden_eq (statement : Stmt) :
    statement.hidden = statement.ownHidden ++
      ((statement.targets ++ statement.values).flatMap fun part => part.hidden) ++
      statement.blocks.flatMap fun inner => inner.hidden := by
  rw [hidden]
  simp [List.flatMap_subtype]

/-- The name in parentheses that gets a type and no value. -/
def ownTyped : Stmt → List Text
  | annotated (.name id) _ none false => [id]
  | _ => []

/-- The names that a statement is found to bind though it only gives them types. -/
def typed (statement : Stmt) : List Text :=
  statement.ownTyped ++ statement.blocks.attach.flatMap fun inner => inner.val.typed
termination_by sizeOf statement
decreasing_by
  exact Stmt.sizeOf_lt_of_mem_children (Stmt.mem_children_of_mem_blocks inner.property)

theorem typed_eq (statement : Stmt) :
    statement.typed = statement.ownTyped ++ statement.blocks.flatMap fun inner => inner.typed := by
  rw [typed]
  simp [List.flatMap_subtype]

variable {name : Text}

/-- Most statements bind nothing in a way of their own: only names, targets and values count. -/
theorem own_bindings_plain {statement : Stmt} (names : statement.plainBindings = statement.ownNames)
    (bound : statement.boundTargets = statement.targets) (typed : statement.ownTyped = [])
    (hidden : statement.ownHidden =
      statement.definitionValues.flatMap fun value => value.bindings false) :
    (name ∈ statement.plainBindings ∨
        (∃ target ∈ statement.boundTargets, name ∈ target.bindings true) ∨
        (∃ value ∈ statement.values, name ∈ value.bindings false) ∨
        (∃ value ∈ statement.definitionValues, name ∈ value.bindings false)) ∨
      name ∈ statement.ownTyped ↔
    (name ∈ statement.ownNames ∨
        (∃ target ∈ statement.targets, name ∈ target.assigned true) ∨
        (∃ value ∈ statement.values, name ∈ value.assigned false)) ∨
      name ∈ statement.ownHidden ∨
      ∃ part ∈ statement.targets ++ statement.values, name ∈ part.hidden := by
  have parts := @Expr.mem_bindings_iff name
  rw [names, bound, typed, hidden]
  grind

/-- What a statement binds by itself, apart from the statements of its blocks. -/
theorem own_bindings_iff (statement : Stmt) :
    (name ∈ statement.plainBindings ∨
        (∃ target ∈ statement.boundTargets, name ∈ target.bindings true) ∨
        (∃ value ∈ statement.values, name ∈ value.bindings false) ∨
        (∃ value ∈ statement.definitionValues, name ∈ value.bindings false)) ∨
      name ∈ statement.ownTyped ↔
    (name ∈ statement.ownNames ∨
        (∃ target ∈ statement.targets, name ∈ target.assigned true) ∨
        (∃ value ∈ statement.values, name ∈ value.assigned false)) ∨
      name ∈ statement.ownHidden ∨
      ∃ part ∈ statement.targets ++ statement.values, name ∈ part.hidden := by
  have parts := @Expr.mem_bindings_iff name
  cases statement with
  | delete gone =>
    simp only [plainBindings, ownNames, boundTargets, Stmt.targets, Stmt.values, definitionValues,
      ownTyped, ownHidden, List.mem_flatMap, List.nil_append]
    grind
  | annotated target typing value simple =>
    cases target with
    | name id =>
      have found : (Expr.name id).assigned true = [id] := by
        rw [Expr.assigned_eq]
        rfl
      have nothing : (Expr.name id).hidden = [] := by
        rw [Expr.hidden_eq]
        rfl
      cases value with
      | some value =>
        simp only [plainBindings, boundTargets, ownTyped, ownHidden]
        grind
      | none =>
        cases simple with
        | true =>
          simp only [plainBindings, boundTargets, ownTyped, ownHidden]
          grind
        | false =>
          simp only [plainBindings, boundTargets, Stmt.targets, ownTyped, ownHidden]
          grind
    | _ => exact own_bindings_plain rfl rfl rfl rfl
  | tryBlock body handlers alternative final grouped =>
    simp only [plainBindings, ownNames, boundTargets, Stmt.targets, Stmt.values, definitionValues,
      ownTyped, ownHidden, List.nil_append]
    grind
  | matchBlock subject cases =>
    simp only [plainBindings, ownNames, boundTargets, Stmt.targets, Stmt.values, definitionValues,
      ownTyped, ownHidden, List.nil_append]
    grind
  | _ => exact own_bindings_plain rfl rfl rfl rfl

/-- A statement binds the names that it is found to bind and the hidden ones, but for names that
only get a type. -/
theorem mem_bindings_iff (statement : Stmt) :
    name ∈ statement.bindings ∨ name ∈ statement.typed ↔
      name ∈ statement.assigned ∨ name ∈ statement.hidden := by
  induction size : sizeOf statement using Nat.strongRecOn generalizing statement with
  | ind size ih =>
    subst size
    have own := @own_bindings_iff name statement
    have below (inner : Stmt) (inside : inner ∈ statement.blocks) :
        name ∈ inner.bindings ∨ name ∈ inner.typed ↔ name ∈ inner.assigned ∨ name ∈ inner.hidden :=
      ih _ (sizeOf_lt_of_mem_children (mem_children_of_mem_blocks inside)) inner rfl
    rw [bindings_eq, typed_eq, assigned_eq, hidden_eq]
    have found : (∃ inner ∈ statement.blocks, name ∈ inner.bindings) ∨
        (∃ inner ∈ statement.blocks, name ∈ inner.typed) ↔
        (∃ inner ∈ statement.blocks, name ∈ inner.assigned) ∨
          ∃ inner ∈ statement.blocks, name ∈ inner.hidden := by
      simp only [← exists_or, ← and_or_left]
      exact exists_congr fun inner => and_congr_right fun inside => below inner inside
    simp only [List.mem_append, List.mem_flatMap] at own ⊢
    clear ih below
    grind

end Stmt

/-! ### Texts -/

open String (toList_ofList)

end Stencil.Script
