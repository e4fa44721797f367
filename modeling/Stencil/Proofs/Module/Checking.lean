import Stencil.Proofs.Module.Reading
import Stencil.Proofs.Outcome
import Stencil.Script.Check

/-!
The code of a program may run, and binds the names that it should.
-/

set_option autoImplicit false

namespace Stencil.Script

/-! ### One level at a time -/

theorem Check.expression_eq (place : Place) (expr : Expr) :
    expression place expr = (own place expr && expr.children.all fun child =>
      (spreads expr || !isStarred child) && expression (below place expr) child) := by
  rw [Check.expression]
  congr 1
  simp [List.all_subtype]

namespace Module

/-! ### Expressions -/

/-- The inside of a function that is run at once. -/
structure Ordinary (place : Check.Place) : Prop where
  inFunction : place.inFunction = true
  notAsync : place.inAsync = false
  alone : place.iterated = []

theorem ordinary_inside (place : Check.Place) (parameters : List Text) (body : List Stmt) :
    Ordinary (Check.inside place parameters body false) := ⟨rfl, rfl, rfl⟩

theorem Ordinary.looping {place : Check.Place} (ordinary : Ordinary place) :
    Ordinary (Check.looping place) := ⟨ordinary.inFunction, ordinary.notAsync, ordinary.alone⟩

/-- An expression that may stand anywhere in a function, and the names that it binds there. -/
structure Sits (expr : Expr) (names : List Text) : Prop where
  plain : Check.isStarred expr = false
  checked : ∀ place, Ordinary place → Check.expression place expr = true
  bindings : expr.bindings false = names

variable {expr other : Expr} {names more : List Text}

theorem Sits.value (sits : Sits expr names) {place : Check.Place} (ordinary : Ordinary place) :
    Check.value place expr = true := by
  rw [Check.value, sits.plain, sits.checked place ordinary]
  rfl

theorem sits_constant (value : Constant) : Sits (.constant value) [] := by
  refine ⟨rfl, fun place _ => ?_, ?_⟩
  · rw [Check.expression_eq]
    rfl
  · rw [Expr.bindings_eq]
    rfl

theorem sits_name (id : Text) : Sits (.name id) [] := by
  refine ⟨rfl, fun place _ => ?_, ?_⟩
  · rw [Check.expression_eq]
    rfl
  · rw [Expr.bindings_eq]
    rfl

theorem sits_empty : Sits (.list []) [] := by
  refine ⟨rfl, fun place _ => ?_, ?_⟩
  · rw [Check.expression_eq]
    rfl
  · rw [Expr.bindings_eq]
    rfl

theorem Sits.binary (left : Sits expr names) (right : Sits other more) (op : BinaryOp) :
    Sits (.binary op expr other) (names ++ more) := by
  refine ⟨rfl, fun place ordinary => ?_, ?_⟩
  · rw [Check.expression_eq]
    simp [Check.own, Check.below, Expr.children, left.plain, right.plain,
      left.checked place ordinary, right.checked place ordinary]
  · rw [Expr.bindings_eq]
    simp [Expr.ownNames, Expr.inner, Expr.children, left.bindings, right.bindings]

theorem Sits.attributeOf (object : Sits expr names) (name : Text) :
    Sits (.attributeOf expr name) names := by
  refine ⟨rfl, fun place ordinary => ?_, ?_⟩
  · rw [Check.expression_eq]
    simp [Check.own, Check.below, Expr.children, object.plain, object.checked place ordinary]
  · rw [Expr.bindings_eq]
    simp [Expr.ownNames, Expr.inner, Expr.children, object.bindings]

theorem Sits.subscript (object : Sits expr names) (index : Sits other more) :
    Sits (.subscript expr other) (names ++ more) := by
  refine ⟨rfl, fun place ordinary => ?_, ?_⟩
  · rw [Check.expression_eq]
    simp [Check.own, Check.below, Expr.children, object.plain, index.plain,
      object.checked place ordinary, index.checked place ordinary]
  · rw [Expr.bindings_eq]
    simp [Expr.ownNames, Expr.inner, Expr.children, object.bindings, index.bindings]

theorem Sits.call (function : Sits expr names) (argument : Sits other more) :
    Sits (.call expr [.positional other]) (names ++ more) := by
  refine ⟨rfl, fun place ordinary => ?_, ?_⟩
  · rw [Check.expression_eq]
    simp [Check.own, Check.below, Expr.children, Argument.value, function.plain, argument.plain,
      function.checked place ordinary, argument.checked place ordinary, Check.keywordNames,
      Check.distinct]
  · rw [Expr.bindings_eq]
    simp [Expr.ownNames, Expr.inner, Expr.children, Argument.value, function.bindings,
      argument.bindings]

/-! ### Statements -/

theorem bindings_name (id : Text) : (Expr.name id).bindings true = [id] := by
  rw [Expr.bindings_eq]
  rfl

theorem target_name {place : Check.Place} (ordinary : Ordinary place) {id : Text}
    (free : id ≠ Check.reserved) : Check.target place (.name id) = true := by
  have fits : Check.starsFit (.name id) = true := by simp [Check.starsFit]
  rw [Check.target, (sits_name id).value ordinary, fits, bindings_name]
  simpa using free.symm

/-- A statement that binds the given names, wherever in a function it stands and there is room for
its blocks. -/
structure Binds (blocks : Nat) (statement : Stmt) (names : List Text) : Prop where
  checked : ∀ place : Check.Place, Ordinary place → place.blocks + blocks ≤ Check.maximalBlocks →
    Check.statement place statement = true
  bindings : statement.bindings = names
  declared : ∀ globals, statement.declared globals = []

variable {blocks : Nat}

theorem Sits.binds (sits : Sits expr names) : Binds blocks (.expression expr) names := by
  constructor
  case checked =>
    intro place ordinary _
    simp [Check.statement, Check.ownStatement, Stmt.targets, Stmt.values, Stmt.definitionValues,
      Stmt.plainBindings, Stmt.ownNames, sits.value ordinary]
  case bindings =>
    rw [Stmt.bindings_eq]
    simp [Stmt.plainBindings, Stmt.ownNames, Stmt.boundTargets, Stmt.targets, Stmt.values,
      Stmt.definitionValues, Stmt.blocks, Stmt.children, sits.bindings]
  case declared =>
    intro globals
    simp [Stmt.declared, Stmt.blocks, Stmt.children]

theorem binds_pass : Binds blocks .pass [] := by
  constructor
  case checked =>
    intro place ordinary _
    rfl
  case bindings =>
    rw [Stmt.bindings_eq]
    rfl
  case declared =>
    intro globals
    simp [Stmt.declared, Stmt.blocks, Stmt.children]

theorem binds_return : Binds blocks returnStatement [] := by
  have sits : Sits joinCall [] := ((sits_constant _).attributeOf _).call (sits_name _)
  constructor
  case checked =>
    intro place ordinary _
    simp [Check.statement, returnStatement, Check.ownStatement, Stmt.targets, Stmt.values,
      Stmt.definitionValues, Stmt.plainBindings, Stmt.ownNames, sits.value ordinary,
      ordinary.inFunction]
  case bindings =>
    rw [Stmt.bindings_eq]
    simp [returnStatement, Stmt.plainBindings, Stmt.ownNames, Stmt.boundTargets, Stmt.targets,
      Stmt.values, Stmt.definitionValues, Stmt.blocks, Stmt.children, sits.bindings]
  case declared =>
    intro globals
    simp [Stmt.declared, returnStatement, Stmt.blocks, Stmt.children]

theorem binds_output : Binds blocks outputStatement [outputName] := by
  have free : outputName ≠ Check.reserved := by decide
  constructor
  case checked =>
    intro place ordinary _
    simp [Check.statement, outputStatement, Check.ownStatement, Stmt.targets, Stmt.values,
      Stmt.definitionValues, Stmt.plainBindings, Stmt.ownNames, target_name ordinary free,
      sits_empty.value ordinary]
  case bindings =>
    rw [Stmt.bindings_eq]
    simp [outputStatement, Stmt.plainBindings, Stmt.ownNames, Stmt.boundTargets, Stmt.targets,
      Stmt.values, Stmt.definitionValues, Stmt.blocks, Stmt.children, bindings_name,
      sits_empty.bindings]
  case declared =>
    intro globals
    simp [Stmt.declared, outputStatement, Stmt.blocks, Stmt.children]

theorem binds_context (contextType : Text) :
    Binds blocks (contextStatement contextType) [selfName] := by
  have free : selfName ≠ Check.reserved := by decide
  have sits : Sits contextValue [] := (sits_name _).subscript (sits_constant _)
  constructor
  case checked =>
    intro place ordinary _
    simp [Check.statement, contextStatement, Check.ownStatement, Stmt.targets, Stmt.values,
      Stmt.definitionValues, Stmt.plainBindings, Stmt.ownNames, target_name ordinary free,
      sits.value ordinary, (sits_constant _).value ordinary]
  case bindings =>
    rw [Stmt.bindings_eq]
    simp [contextStatement, Stmt.plainBindings, Stmt.ownNames, Stmt.boundTargets, Stmt.targets,
      Stmt.values, Stmt.definitionValues, Stmt.blocks, Stmt.children, bindings_name, sits.bindings,
      (sits_constant _).bindings]
  case declared =>
    intro globals
    simp [Stmt.declared, contextStatement, Stmt.blocks, Stmt.children]

/-! ### The functions -/

/-- The statements of a body, with the names that they bind. -/
inductive BindsAll (blocks : Nat) : List Stmt → List Text → Prop where
  | nil : BindsAll blocks [] []
  | cons {statement : Stmt} {rest : List Stmt} {names more : List Text}
      (one : Binds blocks statement names) (others : BindsAll blocks rest more) :
      BindsAll blocks (statement :: rest) (names ++ more)

variable {body : List Stmt}

theorem BindsAll.append {rest : List Stmt} (binds : BindsAll blocks body names)
    (others : BindsAll blocks rest more) : BindsAll blocks (body ++ rest) (names ++ more) := by
  induction binds with
  | nil => exact others
  | cons one _ ih =>
    rw [List.append_assoc]
    exact .cons one ih

theorem BindsAll.checked (binds : BindsAll blocks body names) {place : Check.Place}
    (ordinary : Ordinary place) (room : place.blocks + blocks ≤ Check.maximalBlocks) :
    Check.statements place body = true := by
  induction binds with
  | nil => simp [Check.statements]
  | cons one others ih => simp [Check.statements, one.checked place ordinary room, ih]

theorem BindsAll.bindings (binds : BindsAll blocks body names) :
    body.flatMap Stmt.bindings = names := by
  induction binds with
  | nil => rfl
  | cons one others ih => rw [List.flatMap_cons, one.bindings, ih]

theorem BindsAll.declared (binds : BindsAll blocks body names) (globals : Bool) :
    body.flatMap (Stmt.declared globals) = [] := by
  induction binds with
  | nil => rfl
  | cons one others ih => rw [List.flatMap_cons, one.declared, ih, List.nil_append]

theorem BindsAll.declaredFirst (binds : BindsAll blocks body names) (seen : List Text) :
    Check.declaredFirst seen body = true := by
  induction binds generalizing seen with
  | nil => rfl
  | cons one others ih => simp [Check.declaredFirst, Check.declaredIn, one.declared, ih]

theorem BindsAll.scope (binds : BindsAll blocks body names) (parameters : List Text) :
    Scope.ofFunction parameters body = ⟨(parameters ++ names).eraseDups, [], []⟩ := by
  have kept (all : List Text) : (all.filter fun name =>
      !([] : List Text).contains name && !([] : List Text).contains name) = all := by
    simp
  rw [Scope.ofFunction, binds.declared, binds.declared, binds.bindings, kept]

theorem BindsAll.scopeFits (binds : BindsAll blocks body names) (place : Check.Place)
    (parameters : List Text) : Check.scopeFits place parameters body = true := by
  simp [Check.scopeFits, binds.scope, Check.ownersFit, binds.declaredFirst]

theorem bindsAll_body (binds : BindsAll blocks body names) (contextType : Text) :
    BindsAll blocks (renderBody contextType body) (outputName :: selfName :: names) := by
  have rest := binds.append (.cons binds_return .nil)
  rw [List.append_nil, List.append_nil] at rest
  exact .cons binds_output (.cons (binds_context contextType) rest)

/-- A function of at most one parameter may be defined wherever its name may be bound. -/
theorem check_function {place : Check.Place} {id : Text} {given : Parameters Expr}
    (binds : BindsAll blocks body names) (room : blocks ≤ Check.maximalBlocks)
    (free : id ≠ Check.reserved) (fits : Check.parameters given = true)
    (bare : given.defaults = [] ∧ given.typings = []) :
    Check.statement place (.functionDef id given none body [] false) = true := by
  have inside : Check.statements (Check.inside place given.names body false) body = true :=
    binds.checked (ordinary_inside ..) (by simpa [Check.inside] using room)
  simp [Check.statement, Check.ownStatement, inside, fits, binds.scopeFits, Stmt.targets,
    Stmt.values, Stmt.definitionValues, Stmt.plainBindings, Stmt.ownNames, bare, free.symm]

theorem isValidModule_module (binds : BindsAll blocks body names)
    (room : blocks ≤ Check.maximalBlocks) (contextType : Text) :
    isValidModule (module contextType body) = true := by
  have imports : Check.statement .module importStatement = true := by decide +kernel
  have escapes : Check.statement .module escapeStatement = true := by decide +kernel
  have renders : Check.statement .module (renderStatement contextType body) = true :=
    check_function (bindsAll_body binds contextType) room (by decide) (by decide) ⟨rfl, rfl⟩
  have placed : Check.statements .module (module contextType body) = true := by
    simp [Check.statements, module, imports, escapes, renders]
  have undeclared : Check.declaredFirst [] (module contextType body) = true := by
    simp [Check.declaredFirst, module, Check.declaredIn, Stmt.declared, importStatement,
      escapeStatement, renderStatement, Stmt.blocks, Stmt.children]
  rw [isValidModule, placed, undeclared]
  rfl

theorem loadModule_code {program : Program} {height : Nat} {spoken : List Token}
    (reads : Reads (program.code.length + 1) height program.body spoken body)
    (deep : 1 + height ≤ Lexer.maximalIndents) (binds : BindsAll blocks body names)
    (room : blocks ≤ Check.maximalBlocks) :
    loadModule program.code = .ok (module program.contextType body) := by
  have noNul : program.code.contains '\x00' = false := by
    rw [← Bool.not_eq_true, List.contains_iff_mem]
    exact fun member => (mem_code reads member).2 rfl
  simp only [loadModule, readModule, noNul, Bool.false_eq_true, if_false,
    parseModule_code reads deep, isValidModule_module binds room, Outcome.ok_bind, if_true]
  rfl

end Module

end Stencil.Script
