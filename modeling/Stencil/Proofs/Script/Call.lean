import Stencil.Proofs.Script.Store
import Stencil.Proofs.Module.Reading

/-!
Functions: what defining one leaves in the store, and what calling it does.
-/

set_option autoImplicit false

namespace Stencil.Script

open Module

variable {store later : Store} {globals place fuel depth : Nat} {env : Env}

/-- A function as it stands in the store, given where it is defined. None has defaults. -/
def functionIn (env : Env) (given : Parameters Expr) (body : List Stmt) : Function where
  parameters := given
  defaults := []
  body := body
  scope := Scope.ofFunction given.names body
  outer := env.frames
  globals := env.globals

/-- A function of a module with one parameter. -/
def moduleFunction (globals : Nat) (parameter : Text) (body : List Stmt) : Function :=
  functionIn ⟨[], globals, 0⟩ (singleParameter parameter) body

/-- What a definition in a module leaves: the function in a new place, and its name. -/
structure Defines (globals : Nat) (bound : List (Text × Value)) (function : Function)
    (store later : Store) : Prop where
  names : later.Holds globals (.bindings bound)
  function : later.Holds store.cells.size (.function function)
  size : later.cells.size = store.cells.size + 1
  others : ∀ place cell, globals ≠ place → store.Holds place cell → later.Holds place cell

theorem makeFunction_apply {given : Parameters Expr}
    (defaults : evalDefaults fuel env given.all = pure []) (body : List Stmt) (store : Store) :
    makeFunction (fuel + 1) env given body store =
      .ok (.function store.cells.size) (store.push (.function (functionIn env given body))) := by
  rw [makeFunction, defaults]
  rfl

theorem exec_define {bound : List (Text × Value)} (holds : store.Holds globals (.bindings bound))
    (name parameter : Text) (body : List Stmt) :
    ∃ later, (∀ fuel, exec (fuel + 4) ⟨[], globals, 0⟩
        (.functionDef name (singleParameter parameter) none body [] false) store =
          .ok .next later) ∧
      Defines globals (bindName name (.function store.cells.size) bound)
        (moduleFunction globals parameter body) store later := by
  have kept := Store.keeps_push store (.function (moduleFunction globals parameter body))
  have added := Store.holds_push store (.function (moduleFunction globals parameter body))
  refine ⟨(store.push (.function (moduleFunction globals parameter body))).put globals
    (.bindings (bindName name (.function store.cells.size) bound)), fun fuel => ?_, ?_⟩
  · have made : makeFunction (fuel + 3) ⟨[], globals, 0⟩ (singleParameter parameter) body store =
        .ok (.function store.cells.size)
          (store.push (.function (moduleFunction globals parameter body))) :=
      makeFunction_apply rfl body store
    rw [exec, Outcome.bind_apply, made]
    simp only [Outcome.bind_apply, Names.store_global (kept _ _ holds)]
    rfl
  · constructor
    · exact Store.holds_put (kept _ _ holds) _
    · exact added.put_other (Nat.ne_of_lt holds.lt) _
    · rw [Store.size_put, Store.size_push]
    · exact fun place cell apart held => (kept place cell held).put_other apart _

/-- What a call leaves behind that ends in this way. -/
def Flow.value : Flow → Value
  | .returned value => value
  | _ => .none

/-- The variables of a call. -/
def calledFrame (store : Store) (function : Function) : Frame :=
  ⟨store.cells.size, function.scope.locals, function.scope.globals⟩

theorem call_function {function : Function} {arguments : List Value} {bound : List (Text × Value)}
    {flow : Flow} (holds : store.Holds place (.function function)) (shallow : depth < maximalCalls)
    (bind : bindParameters function arguments [] = pure bound)
    (ran : execAll fuel ⟨calledFrame store function :: function.outer, function.globals, depth + 1⟩
      function.body (store.push (.bindings bound)) = .ok flow later) :
    call (fuel + 1) depth (.function place) arguments [] store = .ok flow.value later := by
  have room : ¬ maximalCalls ≤ depth := Nat.not_le_of_lt shallow
  rw [calledFrame] at ran
  rw [call]
  simp only [if_neg room, Outcome.bind_apply, Run.functionAt_apply holds, bind, Outcome.pure_apply,
    Run.allocate_apply, ran]
  cases flow <;> rfl

theorem bindParameters_single (env : Env) (parameter : Text) (body : List Stmt)
    (argument : Value) :
    bindParameters (functionIn env (singleParameter parameter) body) [argument] [] =
      pure [(parameter, argument)] := by
  have found : findName? parameter [(parameter, argument)] = some argument := by
    simp [findName?]
  have names : positionalNames (singleParameter parameter) = [parameter] := rfl
  simp only [bindParameters, functionIn, names, bindKeywords, pure_bind]
  simp [singleParameter, Parameters.empty, bindDefaults, found]

theorem call_moduleFunction {parameter : Text} {body : List Stmt} {argument value : Value}
    (holds : store.Holds place (.function (moduleFunction globals parameter body)))
    (shallow : depth < maximalCalls)
    (ran : execAll fuel ⟨[calledFrame store (moduleFunction globals parameter body)], globals,
      depth + 1⟩ body (store.push (.bindings [(parameter, argument)])) =
        .ok (.returned value) later) :
    call (fuel + 1) depth (.function place) [argument] [] store = .ok value later :=
  call_function holds shallow (bindParameters_single ..) ran

theorem evalArguments_single {expr : Expr} {value : Value} (plain : Check.isStarred expr = false)
    (evaluated : eval (fuel + 1) env expr store = .ok value later) :
    evalArguments (fuel + 2) env [.positional expr] store = .ok ([value], []) later := by
  have unstarred : ∀ item, expr = .starred item → False := by
    rintro item rfl
    cases plain
  rw [evalArguments]
  · simp only [Outcome.bind_apply, evaluated]
    rfl
  · exact unstarred

theorem eval_call {function : Expr} {arguments : List (Argument Expr)} {middle last : Store}
    {callee value : Value} {given : List Value × List (Text × Value)}
    (found : eval fuel env function store = .ok callee middle)
    (evaluated : evalArguments fuel env arguments middle = .ok given last)
    (called : call fuel env.depth callee given.1 given.2 last = .ok value later) :
    eval (fuel + 1) env (.call function arguments) store = .ok value later := by
  rw [eval]
  simp only [Outcome.bind_apply, found, evaluated, called]

theorem exec_return {expr : Expr} {value : Value}
    (evaluated : eval fuel env expr store = .ok value later) :
    exec (fuel + 1) env (.returnValue (some expr)) store = .ok (.returned value) later := by
  rw [exec]
  simp only [Outcome.bind_apply, evaluated]
  rfl

theorem execAll_next {statement : Stmt} {rest : List Stmt} {middle : Store} {flow : Flow}
    (first : exec fuel env statement store = .ok .next middle)
    (others : execAll (fuel + 1) env rest middle = .ok flow later) :
    execAll (fuel + 1) env (statement :: rest) store = .ok flow later := by
  rw [execAll] at others ⊢
  simp only [inOrder, Outcome.bind_apply, first, others]

theorem inOrder_append (run : Stmt → Run Flow) (first others : List Stmt) :
    inOrder run (first ++ others) = (do
      match ← inOrder run first with
      | .next => inOrder run others
      | jump => return jump) := by
  induction first with
  | nil => rfl
  | cons statement rest ih =>
    rw [List.cons_append, inOrder, inOrder, bind_assoc]
    refine bind_congr fun flow => ?_
    cases flow with
    | next => exact ih
    | _ => rfl

/-- Statements that run to their end, and others behind them. -/
theorem execAll_append {first others : List Stmt} {middle : Store} {flow : Flow}
    (ran : execAll (fuel + 1) env first store = .ok .next middle)
    (behind : execAll (fuel + 1) env others middle = .ok flow later) :
    execAll (fuel + 1) env (first ++ others) store = .ok flow later := by
  rw [execAll] at ran behind ⊢
  rw [inOrder_append, Outcome.bind_apply, ran]
  exact behind

theorem execAll_returned {statement : Stmt} {rest : List Stmt} {value : Value}
    (first : exec fuel env statement store = .ok (.returned value) later) :
    execAll (fuel + 1) env (statement :: rest) store = .ok (.returned value) later := by
  rw [execAll]
  simp only [inOrder, Outcome.bind_apply, first]
  rfl

end Stencil.Script
