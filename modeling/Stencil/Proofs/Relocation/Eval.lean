import Stencil.Proofs.Relocation.Call

/-!
Running code does not depend on where values are: with its values elsewhere it takes the same
course, and what it gives and leaves behind is the same, elsewhere.
-/

set_option autoImplicit false

namespace Stencil.Script

open Run

variable {move : Nat ↪ Nat}

theorem constantValue_moved (move : Nat → Nat) (value : Constant) :
    (constantValue value).moved move = constantValue value := by
  cases value with
  | string value => exact Value.moved_ofPoints ..
  | _ => rfl

/-- All that running code is made of, as deep as it may go, runs elsewhere as it does here. -/
structure Mirrored (move : Nat ↪ Nat) (fuel : Nat) : Prop where
  eval : ∀ env expr,
    Mirrors move (Value.moved move) (eval fuel env expr) (eval fuel (env.moved move) expr)
  bound : ∀ env expr,
    Mirrors move (Value.moved move) (evalBound fuel env expr) (evalBound fuel (env.moved move) expr)
  all : ∀ env items,
    Mirrors move (List.map (Value.moved move)) (evalAll fuel env items)
      (evalAll fuel (env.moved move) items)
  entries : ∀ env gathering items,
    Mirrors move (List.map (Value.movedEntry move)) (evalEntries fuel env gathering items)
      (evalEntries fuel (env.moved move) (gathering.moved move) items)
  logical : ∀ env op operands,
    Mirrors move (Value.moved move) (evalLogical fuel env op operands)
      (evalLogical fuel (env.moved move) op operands)
  compare : ∀ env left rest,
    Mirrors move (Value.moved move) (evalCompare fuel env left rest)
      (evalCompare fuel (env.moved move) (left.moved move) rest)
  arguments : ∀ env arguments,
    Mirrors move (Prod.map (List.map (Value.moved move)) (Bindings.moved move))
      (evalArguments fuel env arguments) (evalArguments fuel (env.moved move) arguments)
  parts : ∀ env parts,
    Mirrors move id (evalParts fuel env parts) (evalParts fuel (env.moved move) parts)
  function : ∀ env parameters body,
    Mirrors move (Value.moved move) (makeFunction fuel env parameters body)
      (makeFunction fuel (env.moved move) parameters body)
  defaults : ∀ env parameters,
    Mirrors move (Bindings.moved move) (evalDefaults fuel env parameters)
      (evalDefaults fuel (env.moved move) parameters)
  call : ∀ depth function arguments keywords,
    Mirrors move (Value.moved move) (call fuel depth function arguments keywords)
      (call fuel depth (function.moved move) (arguments.map (Value.moved move))
        (Bindings.moved move keywords))
  assign : ∀ env target value,
    Mirrors move id (assign fuel env target value)
      (assign fuel (env.moved move) target (value.moved move))
  assignAll : ∀ env pairs,
    Mirrors move id (assignAll fuel env pairs)
      (assignAll fuel (env.moved move) (pairs.map (movedTarget move)))
  delete : ∀ env targets,
    Mirrors move id (delete fuel env targets) (delete fuel (env.moved move) targets)
  exec : ∀ env statement,
    Mirrors move (Flow.moved move) (exec fuel env statement)
      (exec fuel (env.moved move) statement)
  execAll : ∀ env statements,
    Mirrors move (Flow.moved move) (execAll fuel env statements)
      (execAll fuel (env.moved move) statements)
  loop : ∀ env test body,
    Mirrors move (LoopEnd.moved move) (repeatWhile fuel env test body)
      (repeatWhile fuel (env.moved move) test body)

namespace Mirrored

theorem zero : Mirrored move 0 where
  eval _ _ := mirrors_fail _
  bound _ _ := mirrors_fail _
  all _ _ := mirrors_fail _
  entries _ _ _ := mirrors_fail _
  logical _ _ _ := mirrors_fail _
  compare _ _ _ := mirrors_fail _
  arguments _ _ := mirrors_fail _
  parts _ _ := mirrors_fail _
  function _ _ _ := mirrors_fail _
  defaults _ _ := mirrors_fail _
  call _ _ _ _ := mirrors_fail _
  assign _ _ _ := mirrors_fail _
  assignAll _ _ := mirrors_fail _
  delete _ _ := mirrors_fail _
  exec _ _ := mirrors_fail _
  execAll _ _ := mirrors_fail _
  loop _ _ _ := mirrors_fail _

variable {fuel : Nat} (below : Mirrored move fuel)

include below

/-! ### Expressions -/

theorem eval_succ (env : Env) (expr : Expr) :
    Mirrors move (Value.moved move) (Script.eval (fuel + 1) env expr)
      (Script.eval (fuel + 1) (env.moved move) expr) := by
  cases expr with
  | constant value => exact mirrors_pure (constantValue_moved move value)
  | name id => exact Names.mirrors_value id env
  | tuple items => exact (below.all env items).bind fun found => mirrors_pure (Value.moved_tuple ..)
  | list items => exact (below.all env items).bind fun found => mirrors_newList found
  | dict items =>
    refine (below.entries env ⟨[], [], hasManyEntries items⟩ items).bind fun found => ?_
    exact (mirrors_allocate (.dict found)).bind fun place => mirrors_pure rfl
  | unary op operand => exact (below.eval env operand).bind fun value => mirrors_unary op value
  | binary op left right =>
    refine (below.eval env left).bind fun left => ?_
    exact (below.eval env right).bind fun right => mirrors_binary op left right
  | logical op operands => exact below.logical env op operands
  | compare first rest => exact (below.eval env first).bind fun left => below.compare env left rest
  | conditional test body alternative =>
    refine (below.eval env test).bind fun value => (mirrors_truthy value).bind fun found => ?_
    exact .ite (fun _ => below.eval env body) fun _ => below.eval env alternative
  | lambda parameters body => exact below.function env parameters _
  | call function arguments =>
    refine (below.eval env function).bind fun function => ?_
    exact (below.arguments env arguments).bind fun (values, keywords) =>
      below.call env.depth function values keywords
  | attributeOf object name =>
    exact (below.eval env object).bind fun value => Builtin.mirrors_member value name
  | subscript object index =>
    cases index with
    | slice lower upper step =>
      refine (below.eval env object).bind fun object => (below.bound env lower).bind fun lower => ?_
      refine (below.bound env upper).bind fun upper => (below.bound env step).bind fun step => ?_
      exact mirrors_slice object lower upper step
    | _ =>
      refine (below.eval env object).bind fun object => ?_
      exact (below.eval env _).bind fun index => mirrors_subscript object index
  | named target value =>
    refine (below.eval env value).bind fun value => ?_
    exact (Names.mirrors_store target value env).bind fun _ => mirrors_pure rfl
  | formatted parts =>
    exact (below.parts env parts).bind fun found => mirrors_pure (Value.moved_ofPoints ..)
  | _ => exact mirrors_fail _

theorem bound_succ (env : Env) (expr : Option Expr) :
    Mirrors move (Value.moved move) (evalBound (fuel + 1) env expr)
      (evalBound (fuel + 1) (env.moved move) expr) := by
  cases expr with
  | none => exact mirrors_pure rfl
  | some expr => exact below.eval env expr

theorem all_succ (env : Env) (items : List Expr) :
    Mirrors move (List.map (Value.moved move)) (evalAll (fuel + 1) env items)
      (evalAll (fuel + 1) (env.moved move) items) := by
  cases items with
  | nil => exact mirrors_pure rfl
  | cons item rest =>
    cases item with
    | starred item =>
      refine (below.eval env item).bind fun value => (mirrors_elements value).bind fun items => ?_
      exact (below.all env rest).bind fun others => mirrors_pure List.map_append
    | _ =>
      refine (below.eval env _).bind fun value => ?_
      exact (below.all env rest).bind fun others => mirrors_pure rfl

theorem entries_succ (env : Env) (gathering : Gathering) (items : List (DictItem Expr)) :
    Mirrors move (List.map (Value.movedEntry move)) (evalEntries (fuel + 1) env gathering items)
      (evalEntries (fuel + 1) (env.moved move) (gathering.moved move) items) := by
  cases items with
  | nil => exact Gathering.mirrors_settle gathering
  | cons item rest =>
    cases item with
    | entry key value =>
      refine (below.eval env key).bind fun key => (below.eval env value).bind fun value => ?_
      exact (Gathering.mirrors_add gathering key value).bind fun gathering =>
        below.entries env gathering rest
    | mapping value =>
      refine (Gathering.mirrors_settle gathering).bind fun found => ?_
      refine (below.eval env value).bind fun value => ?_
      cases value with
      | dict place =>
        refine (mirrors_dictEntries place).bind fun added => ?_
        refine (mirrors_foldlM fun found entry => ?_).bind fun found =>
          below.entries env ⟨found, [], hasManyEntries rest⟩ rest
        exact mirrors_insertKey entry.1 entry.2 found
      | _ => exact mirrors_fail _

theorem logical_succ (env : Env) (op : Connective) (operands : List Expr) :
    Mirrors move (Value.moved move) (evalLogical (fuel + 1) env op operands)
      (evalLogical (fuel + 1) (env.moved move) op operands) := by
  match operands with
  | [] => exact mirrors_pure rfl
  | [operand] => exact below.eval env operand
  | operand :: next :: rest =>
    refine (below.eval env operand).bind fun value => (mirrors_truthy value).bind fun found => ?_
    exact .ite (fun _ => mirrors_pure rfl) fun _ => below.logical env op (next :: rest)

theorem compare_succ (env : Env) (left : Value) (rest : List (Comparison × Expr)) :
    Mirrors move (Value.moved move) (evalCompare (fuel + 1) env left rest)
      (evalCompare (fuel + 1) (env.moved move) (left.moved move) rest) := by
  cases rest with
  | nil => exact mirrors_pure rfl
  | cons item rest =>
    obtain ⟨op, right⟩ := item
    refine (below.eval env right).bind fun right => ?_
    refine (mirrors_compareBy op left right).bind fun found => ?_
    exact .ite (fun _ => below.compare env right rest) fun _ => mirrors_pure rfl

theorem arguments_succ (env : Env) (arguments : List (Argument Expr)) :
    Mirrors move (Prod.map (List.map (Value.moved move)) (Bindings.moved move))
      (evalArguments (fuel + 1) env arguments)
      (evalArguments (fuel + 1) (env.moved move) arguments) := by
  cases arguments with
  | nil => exact mirrors_pure rfl
  | cons argument rest =>
    have others := below.arguments env rest
    cases argument with
    | positional value =>
      cases value with
      | starred value =>
        refine (below.eval env value).bind fun value => (mirrors_elements value).bind fun items => ?_
        exact others.bind fun (values, keywords) => mirrors_pure (by simp [Prod.map])
      | _ => exact (below.eval env _).bind fun value => others.bind fun _ => mirrors_pure rfl
    | keyword name value =>
      exact (below.eval env value).bind fun value => others.bind fun _ => mirrors_pure rfl
    | mapping value =>
      refine (below.eval env value).bind fun value => ?_
      refine (mirrors_spreadKeywords value).bind fun spread => others.bind fun _ => ?_
      exact mirrors_pure (by simp [Prod.map, Bindings.moved])

theorem parts_succ (env : Env) (parts : List (FormatPart Expr)) :
    Mirrors move id (evalParts (fuel + 1) env parts)
      (evalParts (fuel + 1) (env.moved move) parts) := by
  cases parts with
  | nil => exact mirrors_pure rfl
  | cons part rest =>
    have others := below.parts env rest
    cases part with
    | fixed points => exact others.bind fun _ => mirrors_pure rfl
    | field value conversion format =>
      rw [evalParts, evalParts]
      refine .refusing fun _ => (below.eval env value).bind fun value => ?_
      split
      next =>
        exact (mirrors_shown value).bind fun _ => others.bind fun _ => mirrors_pure rfl
      next =>
        exact (mirrors_shown value).bind fun _ => others.bind fun _ => mirrors_pure rfl
      next =>
        exact (mirrors_displayPoints value).bind fun _ => others.bind fun _ => mirrors_pure rfl

/-! ### Functions -/

theorem function_succ (env : Env) (parameters : Parameters Expr) (body : List Stmt) :
    Mirrors move (Value.moved move) (makeFunction (fuel + 1) env parameters body)
      (makeFunction (fuel + 1) (env.moved move) parameters body) := by
  refine (below.defaults env parameters.all).bind fun defaults => ?_
  exact (mirrors_allocate (.function _)).bind fun place => mirrors_pure rfl

theorem defaults_succ (env : Env) (parameters : List (Parameter Expr)) :
    Mirrors move (Bindings.moved move) (evalDefaults (fuel + 1) env parameters)
      (evalDefaults (fuel + 1) (env.moved move) parameters) := by
  cases parameters with
  | nil => exact mirrors_pure rfl
  | cons parameter rest =>
    obtain ⟨name, typing, default⟩ := parameter
    cases default with
    | none => exact below.defaults env rest
    | some expr =>
      refine (below.eval env expr).bind fun value => ?_
      exact (below.defaults env rest).bind fun others => mirrors_pure rfl

theorem call_succ (depth : Nat) (function : Value) (arguments : List Value) (keywords : Bindings) :
    Mirrors move (Value.moved move) (Script.call (fuel + 1) depth function arguments keywords)
      (Script.call (fuel + 1) depth (function.moved move) (arguments.map (Value.moved move))
        (Bindings.moved move keywords)) := by
  cases function with
  | function place =>
    simp only [Value.moved, Script.call]
    refine .refusing fun _ => (mirrors_functionAt place).bind fun function => ?_
    refine (mirrors_bindParameters function arguments keywords).bind fun bound => ?_
    refine (mirrors_allocate (.bindings bound)).bind fun place => ?_
    refine (below.execAll ⟨⟨place, _, _⟩ :: function.outer, function.globals, depth + 1⟩
      function.body).bind fun flow => ?_
    cases flow <;> exact mirrors_pure rfl
  | builtin builtin => exact Builtin.mirrors_apply builtin arguments keywords
  | method receiver method => exact Builtin.mirrors_applyMethod receiver method arguments keywords
  | pageMethod method =>
    rcases arguments with _ | ⟨block, _ | ⟨_, _⟩⟩
    next => cases method <;> exact mirrors_fail _
    next =>
      rcases keywords with _ | ⟨_, _⟩
      next =>
        cases method with
        | wrap => exact (below.call depth block [] []).bind fun _ => mirrors_pure rfl
        | twice =>
          refine (below.call depth block [] []).bind fun _ => ?_
          exact (below.call depth block [] []).bind fun _ => mirrors_pure rfl
        | skip | around => exact mirrors_pure rfl
      next => cases method <;> exact mirrors_fail _
    next => cases method <;> exact mirrors_fail _
  | giver value =>
    rcases arguments with _ | ⟨block, _ | ⟨_, _⟩⟩
    next => exact mirrors_fail _
    next =>
      rcases keywords with _ | ⟨_, _⟩
      next => exact (below.call depth block [] []).bind fun _ => mirrors_pure rfl
      next => exact mirrors_fail _
    next => exact mirrors_fail _
  | _ => exact mirrors_fail _

/-! ### Statements -/

theorem assign_succ (env : Env) (target : Expr) (value : Value) :
    Mirrors move id (Script.assign (fuel + 1) env target value)
      (Script.assign (fuel + 1) (env.moved move) target (value.moved move)) := by
  have spread (items : List Expr) : Mirrors move id
      (do Script.assignAll fuel env (← distribute items (← value.elements)))
      (do
        Script.assignAll fuel (env.moved move)
          (← distribute items (← (value.moved move).elements))) :=
    (mirrors_elements value).bind fun values => (mirrors_distribute items values).bind fun pairs =>
      below.assignAll env pairs
  cases target with
  | name id => exact Names.mirrors_store id value env
  | attributeOf object name =>
    exact (below.eval env object).bind fun object => Builtin.mirrors_setMember object name value
  | subscript object index =>
    cases index with
    | slice => exact mirrors_fail _
    | _ =>
      refine (below.eval env object).bind fun object => ?_
      exact (below.eval env _).bind fun index => mirrors_storeItem object index value
  | tuple items => exact spread items
  | list items => exact spread items
  | _ => exact mirrors_fail _

theorem assignAll_succ (env : Env) (pairs : List (Expr × Value)) :
    Mirrors move id (Script.assignAll (fuel + 1) env pairs)
      (Script.assignAll (fuel + 1) (env.moved move) (pairs.map (movedTarget move))) := by
  cases pairs with
  | nil => exact mirrors_pure rfl
  | cons pair rest =>
    exact (below.assign env pair.1 pair.2).bind fun _ => below.assignAll env rest

theorem delete_succ (env : Env) (targets : List Expr) :
    Mirrors move id (Script.delete (fuel + 1) env targets)
      (Script.delete (fuel + 1) (env.moved move) targets) := by
  cases targets with
  | nil => exact mirrors_pure rfl
  | cons target rest =>
    have others := below.delete env rest
    cases target with
    | name id => exact (Names.mirrors_remove id env).bind fun _ => others
    | subscript object index =>
      refine (below.eval env object).bind fun object => (below.eval env index).bind fun index => ?_
      exact (mirrors_removeItem object index).bind fun _ => others
    | tuple items => exact (below.delete env items).bind fun _ => others
    | list items => exact (below.delete env items).bind fun _ => others
    | _ => exact fun _ _ copies => .error copies

theorem augmented_succ (env : Env) (target : Expr) (op : BinaryOp) (value : Expr) :
    Mirrors move (Flow.moved move) (Script.exec (fuel + 1) env (.augmented target op value))
      (Script.exec (fuel + 1) (env.moved move) (.augmented target op value)) := by
  cases target with
  | name id =>
    refine (Names.mirrors_value id env).bind fun held => (below.eval env value).bind fun value => ?_
    refine (mirrors_augmented op held value).bind fun found => ?_
    exact (Names.mirrors_store id found env).bind fun _ => mirrors_pure rfl
  | attributeOf object name =>
    refine (below.eval env object).bind fun object => ?_
    refine (Builtin.mirrors_member object name).bind fun held => ?_
    refine (below.eval env value).bind fun value => ?_
    refine (mirrors_augmented op held value).bind fun found => ?_
    exact (Builtin.mirrors_setMember object name found).bind fun _ => mirrors_pure rfl
  | subscript object index =>
    refine (below.eval env object).bind fun object => (below.eval env index).bind fun index => ?_
    refine (mirrors_subscript object index).bind fun held => ?_
    refine (below.eval env value).bind fun value => ?_
    refine (mirrors_augmented op held value).bind fun found => ?_
    exact (mirrors_storeItem object index found).bind fun _ => mirrors_pure rfl
  | _ => exact mirrors_fail _

/-- What follows a loop: the alternative, if no jump ended it. -/
theorem afterLoop (env : Env) (alternative : List Stmt) (ended : LoopEnd) :
    Mirrors move (Flow.moved move)
      (match ended with
        | .finished => Script.execAll fuel env alternative
        | .broken => return .next
        | .returned value => return .returned value)
      (match ended.moved move with
        | .finished => Script.execAll fuel (env.moved move) alternative
        | .broken => return .next
        | .returned value => return .returned value) := by
  cases ended with
  | finished => exact below.execAll env alternative
  | broken => exact mirrors_pure rfl
  | returned value => exact mirrors_pure rfl

theorem exec_succ (env : Env) (statement : Stmt) :
    Mirrors move (Flow.moved move) (Script.exec (fuel + 1) env statement)
      (Script.exec (fuel + 1) (env.moved move) statement) := by
  cases statement with
  | expression value => exact (below.eval env value).bind fun _ => mirrors_pure rfl
  | assign targets value =>
    refine (below.eval env value).bind fun value => ?_
    have found := below.assignAll env (targets.map fun target => (target, value))
    rw [List.map_map] at found
    exact found.bind fun _ => mirrors_pure rfl
  | augmented target op value => exact below.augmented_succ env target op value
  | annotated target typing value simple =>
    cases value with
    | none => exact mirrors_pure rfl
    | some value =>
      refine (below.eval env value).bind fun value => ?_
      exact (below.assign env target value).bind fun _ => mirrors_pure rfl
  | delete targets => exact (below.delete env targets).bind fun _ => mirrors_pure rfl
  | pass | breakLoop | continueLoop | globalNames | nonlocalNames => exact mirrors_pure rfl
  | returnValue value =>
    cases value with
    | none => exact mirrors_pure rfl
    | some value => exact (below.eval env value).bind fun _ => mirrors_pure rfl
  | assertion test message =>
    refine (below.eval env test).bind fun value => (mirrors_truthy value).bind fun found => ?_
    exact .ite (fun _ => mirrors_pure rfl) fun _ => mirrors_fail _
  | importNames level path selection =>
    cases level with
    | zero =>
      cases selection with
      | everything => exact mirrors_fail _
      | names names => exact (mirrors_bringIn env path names).bind fun _ => mirrors_pure rfl
    | succ => exact mirrors_fail _
  | branch test body alternative =>
    refine (below.eval env test).bind fun value => (mirrors_truthy value).bind fun found => ?_
    exact .ite (fun _ => below.execAll env body) fun _ => below.execAll env alternative
  | whileLoop test body alternative =>
    exact (below.loop env test body).bind fun ended => below.afterLoop env alternative ended
  | forLoop target iterable body alternative async =>
    cases async with
    | true => exact mirrors_fail _
    | false =>
      refine (below.eval env iterable).bind fun value => (mirrors_cursor value).bind fun cursor => ?_
      rw [Cursor.looks_moved]
      refine (mirrors_repeatOver (fun value => ?_) _ cursor).bind fun ended =>
        below.afterLoop env alternative ended
      exact (below.assign env target value).bind fun _ => below.execAll env body
  | functionDef name parameters returns body decorators async =>
    cases decorators with
    | cons => exact mirrors_fail _
    | nil =>
      cases async with
      | true => exact mirrors_fail _
      | false =>
        refine (below.function env parameters body).bind fun value => ?_
        exact (Names.mirrors_store name value env).bind fun _ => mirrors_pure rfl
  | _ => exact mirrors_fail _

theorem loop_succ (env : Env) (test : Expr) (body : List Stmt) :
    Mirrors move (LoopEnd.moved move) (repeatWhile (fuel + 1) env test body)
      (repeatWhile (fuel + 1) (env.moved move) test body) := by
  refine (below.eval env test).bind fun value => (mirrors_truthy value).bind fun found => ?_
  refine .ite (fun _ => (below.execAll env body).bind fun flow => ?_) fun _ => mirrors_pure rfl
  cases flow with
  | next => exact below.loop env test body
  | continued => exact below.loop env test body
  | broke => exact mirrors_pure rfl
  | returned value => exact mirrors_pure rfl

theorem succ : Mirrored move (fuel + 1) where
  eval := below.eval_succ
  bound := below.bound_succ
  all := below.all_succ
  entries := below.entries_succ
  logical := below.logical_succ
  compare := below.compare_succ
  arguments := below.arguments_succ
  parts := below.parts_succ
  function := below.function_succ
  defaults := below.defaults_succ
  call := below.call_succ
  assign := below.assign_succ
  assignAll := below.assignAll_succ
  delete := below.delete_succ
  exec := below.exec_succ
  execAll env statements := mirrors_inOrder (below.exec env) statements
  loop := below.loop_succ

end Mirrored

theorem mirrored (move : Nat ↪ Nat) (fuel : Nat) : Mirrored move fuel := by
  induction fuel with
  | zero => exact .zero
  | succ fuel below => exact below.succ

theorem mirrors_runModule (module : List Stmt) :
    Mirrors move move (runModule module) (runModule module) := by
  refine (mirrors_allocate (.bindings [])).bind fun globals => ?_
  exact ((mirrored move maximalDepth).execAll ⟨[], globals, 0⟩ module).bind fun _ =>
    mirrors_pure rfl

theorem mirrors_callFunction (function : Value) (arguments : List Value) :
    Mirrors move (Value.moved move) (callFunction function arguments)
      (callFunction (function.moved move) (arguments.map (Value.moved move))) :=
  (mirrored move maximalDepth).call 0 function arguments []

end Stencil.Script
