import Stencil.Script.Grammar.Statement
import Stencil.Text.Basic

/-!
The names that a statement binds where it stands. Functions, classes, lambdas and comprehensions
are not looked into.
-/

set_option autoImplicit false

namespace Stencil.Script

/-- Whether an expression has names of its own, apart from those around it. -/
def Expr.opensScope : Expr → Bool
  | lambda _ _ => true
  | comprehension _ _ _ _ => true
  | _ => false

/-- Whether the parts of an expression are assigned to where the expression is. -/
def Expr.distributes : Expr → Bool
  | tuple _ => true
  | list _ => true
  | starred _ => true
  | _ => false

/-- The name that an expression binds by itself. -/
def Expr.ownNames (stored : Bool) : Expr → List Text
  | name id => if stored then [id] else []
  | named target _ => [target]
  | _ => []

/-- The names bound by an expression, which may be assigned to where it stands. -/
def Expr.assigned (stored : Bool) (expr : Expr) : List Text :=
  if expr.opensScope then []
  else expr.ownNames stored ++
    expr.children.attach.flatMap fun child =>
      child.val.assigned (stored && expr.distributes)
termination_by sizeOf expr
decreasing_by exact Expr.sizeOf_lt_of_mem_children child.property

theorem Expr.assigned_eq (stored : Bool) (expr : Expr) :
    expr.assigned stored =
      if expr.opensScope then []
      else expr.ownNames stored ++
        expr.children.flatMap fun child => child.assigned (stored && expr.distributes) := by
  rw [Expr.assigned]
  simp [List.flatMap_subtype]

mutual

/-- The expressions in a pattern. -/
def Pattern.values : Pattern → List Expr
  | .constant value => [value]
  | .capture _ => []
  | .star _ => []
  | .sequence items => valuesOfAll items
  | .mapping keys items _ => keys ++ valuesOfAll items
  | .instance type items _ keywordItems =>
      type :: valuesOfAll items ++ valuesOfAll keywordItems
  | .either options => valuesOfAll options
  | .as pattern _ => pattern.values

def valuesOfAll : List Pattern → List Expr
  | [] => []
  | pattern :: rest => pattern.values ++ valuesOfAll rest

end

/-- The expressions that a statement assigns to. -/
def Stmt.targets : Stmt → List Expr
  | assign targets _ => targets
  | augmented target _ _ => [target]
  | annotated target _ _ _ => [target]
  | forLoop target _ _ _ _ => [target]
  | withBlock items _ _ => items.filterMap (·.2)
  | _ => []

/-- The other expressions of a statement, without those of definitions and of inner statements. -/
def Stmt.values : Stmt → List Expr
  | expression value => [value]
  | assign _ value => [value]
  | augmented _ _ value => [value]
  | annotated _ typing value _ => typing :: value.toList
  | delete targets => targets
  | returnValue value => value.toList
  | raiseError error cause => error.toList ++ cause.toList
  | assertion test message => test :: message.toList
  | branch test _ _ => [test]
  | whileLoop test _ _ => [test]
  | forLoop _ iterable _ _ _ => [iterable]
  | withBlock items _ _ => items.map (·.1)
  | tryBlock _ handlers _ _ _ => handlers.filterMap (·.type)
  | matchBlock subject cases =>
      subject :: cases.flatMap fun one => one.pattern.values ++ one.guard.toList
  | _ => []

def Import.boundName (module : Import) : List Text :=
  match module.newName with
  | some name => [name]
  | none => module.path.take 1

/-- The names that a statement binds by itself. -/
def Stmt.ownNames : Stmt → List Text
  | importModules modules => modules.flatMap Import.boundName
  | importNames _ _ (.names names) => names.flatMap Import.boundName
  | functionDef name _ _ _ _ _ => [name]
  | classDef name _ _ _ => [name]
  | _ => []

/-- The statements of a statement's blocks, unless they belong to a definition. -/
def Stmt.blocks : Stmt → List Stmt
  | functionDef _ _ _ _ _ _ => []
  | classDef _ _ _ _ => []
  | other => other.children

theorem Stmt.sizeOf_lt_of_mem_children {child statement : Stmt}
    (member : child ∈ statement.children) : sizeOf child < sizeOf statement := by
  cases statement with
  | branch test body alternative =>
    simp only [children, List.mem_append] at member
    rcases member with below | below <;>
      have bound := List.sizeOf_lt_of_mem below <;> simp <;> omega
  | whileLoop test body alternative =>
    simp only [children, List.mem_append] at member
    rcases member with below | below <;>
      have bound := List.sizeOf_lt_of_mem below <;> simp <;> omega
  | forLoop target iterable body alternative async =>
    simp only [children, List.mem_append] at member
    rcases member with below | below <;>
      have bound := List.sizeOf_lt_of_mem below <;> simp <;> omega
  | withBlock items body async =>
    have bound := List.sizeOf_lt_of_mem (show child ∈ body from member)
    simp
    omega
  | tryBlock body handlers alternative final grouped =>
    simp only [children, List.mem_append] at member
    rcases member with ((below | below) | below) | below
    next =>
      have bound := List.sizeOf_lt_of_mem below
      simp
      omega
    next =>
      have smaller : ∀ (one : Handler Stmt) (inner : Stmt), inner ∈ one.body →
          sizeOf inner < sizeOf one := by
        intro one inner inside
        have first := List.sizeOf_lt_of_mem inside
        cases one
        simp only [Handler.mk.sizeOf_spec] at first ⊢
        omega
      have bound := sizeOf_lt_of_mem_flatMap smaller below
      simp
      omega
    next =>
      have bound := List.sizeOf_lt_of_mem below
      simp
      omega
    next =>
      have bound := List.sizeOf_lt_of_mem below
      simp
      omega
  | matchBlock subject cases =>
    have smaller : ∀ (one : Case Stmt) (inner : Stmt), inner ∈ one.body →
        sizeOf inner < sizeOf one := by
      intro one inner inside
      have first := List.sizeOf_lt_of_mem inside
      cases one
      simp only [Case.mk.sizeOf_spec] at first ⊢
      omega
    have bound := sizeOf_lt_of_mem_flatMap smaller (show child ∈ cases.flatMap (·.body) from member)
    simp
    omega
  | functionDef name parameters returns body decorators async =>
    have bound := List.sizeOf_lt_of_mem (show child ∈ body from member)
    simp
    omega
  | classDef name arguments body decorators =>
    have bound := List.sizeOf_lt_of_mem (show child ∈ body from member)
    simp
    omega
  | _ => simp [children] at member

theorem Stmt.mem_children_of_mem_blocks {child statement : Stmt}
    (member : child ∈ statement.blocks) : child ∈ statement.children := by
  cases statement <;> simp_all [blocks]

/-- The names bound by a statement and by the statements of its blocks. -/
def Stmt.assigned (statement : Stmt) : List Text :=
  statement.ownNames ++
    (statement.targets.flatMap fun target => target.assigned true) ++
    (statement.values.flatMap fun value => value.assigned false) ++
    statement.blocks.attach.flatMap fun inner => inner.val.assigned
termination_by sizeOf statement
decreasing_by
  exact Stmt.sizeOf_lt_of_mem_children (Stmt.mem_children_of_mem_blocks inner.property)

theorem Stmt.assigned_eq (statement : Stmt) :
    statement.assigned =
      statement.ownNames ++
        (statement.targets.flatMap fun target => target.assigned true) ++
        (statement.values.flatMap fun value => value.assigned false) ++
        statement.blocks.flatMap fun inner => inner.assigned := by
  rw [Stmt.assigned]
  simp [List.flatMap_subtype]

/-- How many levels an expression has. What opens a scope is one level. -/
def Expr.levels (expr : Expr) : Nat :=
  if expr.opensScope then 1
  else 1 + (expr.children.attach.map fun child => child.val.levels).foldl max 0
termination_by sizeOf expr
decreasing_by exact Expr.sizeOf_lt_of_mem_children child.property

/-- How many levels a statement has, those of its blocks included. -/
def Stmt.levels (statement : Stmt) : Nat :=
  let values := (statement.targets ++ statement.values).map Expr.levels
  let inner := statement.blocks.attach.map fun inner => inner.val.levels
  1 + (values ++ inner).foldl max 0
termination_by sizeOf statement
decreasing_by
  exact Stmt.sizeOf_lt_of_mem_children (Stmt.mem_children_of_mem_blocks inner.property)

/-- Names are not looked for in statements of more levels. -/
def maximalLevels : Nat := 495

/-- Why code has no tree, or why its tree is not looked into. -/
inductive CodeFault where
  | nul
  | malformed
  | tooDeep
deriving DecidableEq, Repr

/-- The statements of a source. A NUL character is refused before anything is read. -/
def readModule (source : Text) : Except CodeFault (List Stmt) :=
  if source.contains '\x00' then .error .nul
  else match parseModule source with
    | some statements => .ok statements
    | none => .error .malformed

/-- A header gets a body that does nothing. -/
def completed (statement : Text) : Text :=
  if (Text.trimRight statement).getLast? = some ':' then statement ++ "\n    pass".toList
  else statement

/-- The names bound by the text of a statement or of a header. Text that cannot be read by itself
binds none. -/
def assignedNames (statement : Text) : Except CodeFault (List Text) :=
  match readModule (completed statement) with
  | .ok statements =>
    if statements.any fun one => maximalLevels < one.levels then .error .tooDeep
    else .ok (Text.sortUnique (statements.flatMap Stmt.assigned))
  | .error .malformed => .ok []
  | .error fault => .error fault

end Stencil.Script
