import Stencil.Proofs.Relocation.Builtin
import Stencil.Script.Eval

/-!
Names, loops and calls do not depend on where values are.
-/

set_option autoImplicit false

namespace Stencil.Script

open Run

variable {move : Nat ↪ Nat}

def Env.moved (move : Nat → Nat) (env : Env) : Env where
  frames := env.frames.map (Frame.moved move)
  globals := move env.globals
  depth := env.depth

def Flow.moved (move : Nat → Nat) : Flow → Flow
  | .returned value => .returned (value.moved move)
  | other => other

def LoopEnd.moved (move : Nat → Nat) : LoopEnd → LoopEnd
  | .returned value => .returned (value.moved move)
  | other => other

def Cursor.moved (move : Nat → Nat) : Cursor → Cursor
  | .items values => .items (values.map (Value.moved move))
  | .counted start count step => .counted start count step
  | .live place index => .live (move place) index
  | .keys place size waiting => .keys (move place) size (waiting.map (Value.moved move))

def Gathering.moved (move : Nat → Nat) (gathering : Gathering) : Gathering where
  found := gathering.found.map (Value.movedEntry move)
  waiting := gathering.waiting.map (Value.movedEntry move)
  many := gathering.many

/-! ### Names -/

namespace Names

theorem mirrors_globalValue (globals : Nat) (name : Text) :
    Mirrors move (Value.moved move) (globalValue globals name)
      (globalValue (move globals) name) := by
  refine (mirrors_bindings globals).bind fun bound => ?_
  rw [findName?_moved]
  cases findName? name bound with
  | some value => exact mirrors_pure rfl
  | none =>
    simp only [Option.map_none]
    cases Builtin.ofName? name with
    | some builtin => exact mirrors_pure rfl
    | none => exact mirrors_fail _

/-- The variable of a function, or why it has no value. -/
theorem mirrors_local (place : Nat) (name : Text) (failure : Failure) :
    Mirrors move (Value.moved move)
      (do
        match findName? name (← Run.bindings place) with
        | some value => return value
        | none => Run.fail failure)
      (do
        match findName? name (← Run.bindings (move place)) with
        | some value => return value
        | none => Run.fail failure) := by
  refine (mirrors_bindings place).bind fun bound => ?_
  rw [findName?_moved]
  cases findName? name bound with
  | some value => exact mirrors_pure rfl
  | none => exact mirrors_fail _

theorem mirrors_freeValue (globals : Nat) (name : Text) (frames : List Frame) :
    Mirrors move (Value.moved move) (freeValue globals name frames)
      (freeValue (move globals) name (frames.map (Frame.moved move))) := by
  induction frames with
  | nil => exact mirrors_globalValue globals name
  | cons frame outer ih =>
    rw [List.map_cons, freeValue, freeValue]
    refine .ite (fun _ => mirrors_globalValue globals name) fun _ => ?_
    exact .ite (fun _ => mirrors_local frame.place name _) fun _ => ih

theorem mirrors_value (name : Text) (env : Env) :
    Mirrors move (Value.moved move) (value name env) (value name (env.moved move)) := by
  obtain ⟨frames, globals, depth⟩ := env
  cases frames with
  | nil => exact mirrors_globalValue globals name
  | cons frame outer =>
    refine .ite (fun _ => mirrors_globalValue globals name) fun _ => ?_
    refine .ite (fun _ => mirrors_local frame.place name _) fun _ => ?_
    exact mirrors_freeValue globals name outer

theorem owner_moved (move : Nat → Nat) (globals : Nat) (name : Text) (frames : List Frame) :
    owner (move globals) name (frames.map (Frame.moved move)) =
      move (owner globals name frames) := by
  induction frames with
  | nil => rfl
  | cons frame outer ih =>
    simp only [List.map_cons, owner, Frame.moved, apply_ite move, ih]

theorem mirrors_store (name : Text) (value : Value) (env : Env) :
    Mirrors move id (store name value env) (store name (value.moved move) (env.moved move)) := by
  simp only [store, Env.moved, owner_moved]
  refine (mirrors_bindings _).bind fun bound => ?_
  rw [← Bindings.moved_bindName]
  exact mirrors_replace _ (.bindings _)

theorem mirrors_remove (name : Text) (env : Env) :
    Mirrors move id (remove name env) (remove name (env.moved move)) := by
  refine (mirrors_value name env).bind fun _ => ?_
  simp only [Env.moved, owner_moved]
  refine (mirrors_bindings _).bind fun bound => ?_
  have kept : (Bindings.moved move bound).filter (fun entry => entry.1 != name) =
      Bindings.moved move (bound.filter fun entry => entry.1 != name) := by
    rw [Bindings.moved, Bindings.moved, List.filter_map]
    rfl
  rw [kept]
  exact mirrors_replace _ (.bindings _)

end Names

/-! ### Loops -/

theorem mirrors_cursor (value : Value) :
    Mirrors move (Cursor.moved move) (Cursor.of value) (Cursor.of (value.moved move)) := by
  have other (value : Value) : Mirrors move (Cursor.moved move)
      (do return .items (← value.elements)) (do return .items (← (value.moved move).elements)) :=
    (mirrors_elements value).bind fun items => mirrors_pure rfl
  cases shape : value with
  | list place => exact mirrors_pure rfl
  | dict place =>
    refine (mirrors_dictEntries place).bind fun entries => mirrors_pure ?_
    rw [List.length_map, List.map_map]
    simp only [Cursor.moved, List.map_map]
    rfl
  | range start stop step => exact mirrors_pure rfl
  | _ => exact (shape ▸ other value :)

theorem Cursor.looks_moved (move : Nat → Nat) (bound : Nat) (cursor : Cursor) :
    (cursor.moved move).looks bound = cursor.looks bound := by
  cases cursor with
  | items values => simp only [moved, looks, List.length_map]
  | counted start count step => rfl
  | live place index => rfl
  | keys place size waiting => simp only [moved, looks, List.length_map]

def Cursor.movedNext (move : Nat → Nat) (found : Option (Value × Cursor)) :
    Option (Value × Cursor) :=
  found.map fun (value, rest) => (value.moved move, rest.moved move)

theorem mirrors_next? (cursor : Cursor) :
    Mirrors move (Cursor.movedNext move) cursor.next? (cursor.moved move).next? := by
  cases cursor with
  | items items => cases items <;> exact mirrors_pure rfl
  | counted start count step => cases count <;> exact mirrors_pure rfl
  | live place index =>
    refine (mirrors_listItems place).bind fun items => ?_
    rw [List.getElem?_map]
    cases items[index]? with
    | none => exact mirrors_pure rfl
    | some value => exact mirrors_pure rfl
  | keys place size waiting =>
    refine (mirrors_dictEntries place).bind fun entries => ?_
    rw [List.length_map]
    refine .refusing fun _ => ?_
    cases waiting <;> exact mirrors_pure rfl

theorem mirrors_repeatOver {turn other : Value → Run Flow}
    (each : ∀ value, Mirrors move (Flow.moved move) (turn value) (other (value.moved move)))
    (looks : Nat) (cursor : Cursor) :
    Mirrors move (LoopEnd.moved move) (repeatOver turn looks cursor)
      (repeatOver other looks (cursor.moved move)) := by
  induction looks generalizing cursor with
  | zero => exact mirrors_fail _
  | succ looks ih =>
    refine (mirrors_next? cursor).bind fun found => ?_
    cases found with
    | none => exact mirrors_pure rfl
    | some step =>
      refine (each step.1).bind fun flow => ?_
      cases flow with
      | next => exact ih step.2
      | broke => exact mirrors_pure rfl
      | continued => exact ih step.2
      | returned value => exact mirrors_pure rfl

theorem mirrors_inOrder {run other : Stmt → Run Flow}
    (each : ∀ statement, Mirrors move (Flow.moved move) (run statement) (other statement))
    (statements : List Stmt) :
    Mirrors move (Flow.moved move) (inOrder run statements) (inOrder other statements) := by
  induction statements with
  | nil => exact mirrors_pure rfl
  | cons statement rest ih =>
    refine (each statement).bind fun flow => ?_
    cases flow with
    | next => exact ih
    | _ => exact mirrors_pure rfl

/-! ### Calls -/

theorem mirrors_bindKeywords (parameters : Parameters Expr) (bound keywords : Bindings) :
    Mirrors move (Prod.map (Bindings.moved move) (Bindings.moved move))
      (bindKeywords parameters bound keywords)
      (bindKeywords parameters (Bindings.moved move bound) (Bindings.moved move keywords)) := by
  induction keywords generalizing bound with
  | nil => exact mirrors_pure rfl
  | cons entry rest ih =>
    obtain ⟨name, value⟩ := entry
    rw [Bindings.moved, Bindings.moved, List.map_cons, bindKeywords, bindKeywords]
    have named := findName?_moved move name bound
    rw [Bindings.moved] at named
    rw [named, Option.isSome_map]
    refine .ite (fun _ => .refusing fun _ => ?_) fun _ => .ite (fun _ => ?_) fun _ => mirrors_fail _
    · have found := ih (bound ++ [(name, value)])
      simp only [Bindings.moved, List.map_append] at found
      exact found
    · exact (ih bound).bind fun _ => mirrors_pure rfl

theorem mirrors_bindDefaults (defaults bound : Bindings) (names : List Text) :
    Mirrors move (Bindings.moved move) (bindDefaults defaults bound names)
      (bindDefaults (Bindings.moved move defaults) (Bindings.moved move bound) names) := by
  induction names generalizing bound with
  | nil => exact mirrors_pure rfl
  | cons name rest ih =>
    rw [bindDefaults, bindDefaults, findName?_moved, findName?_moved, Option.isSome_map]
    refine .ite (fun _ => ih bound) fun _ => ?_
    cases findName? name defaults with
    | none => exact mirrors_fail _
    | some value =>
      have found := ih (bound ++ [(name, value)])
      simp only [Bindings.moved, List.map_append] at found
      exact found

theorem textKeys_moved (move : Nat → Nat) (entries : Bindings) :
    textKeys (Bindings.moved move entries) = (textKeys entries).map (Value.movedEntry move) := by
  simp only [textKeys, Bindings.moved, List.map_map]
  rfl

/-- The variables of a call with those keywords that no parameter takes. -/
def bindOthers (parameters : Parameters Expr) (bound others : Bindings) : Run Bindings :=
  match parameters.keywords with
  | some parameter => do
    let place ← Run.allocate (.dict (textKeys others))
    return bound ++ [(parameter.name, .dict place)]
  | none => return bound

theorem mirrors_bindOthers (parameters : Parameters Expr) (bound others : Bindings) :
    Mirrors move (Bindings.moved move) (bindOthers parameters bound others)
      (bindOthers parameters (Bindings.moved move bound) (Bindings.moved move others)) := by
  unfold bindOthers
  rw [textKeys_moved]
  split
  next =>
    refine (mirrors_allocate (.dict (textKeys others))).bind fun place => mirrors_pure ?_
    simp [Bindings.moved, Value.moved]
  next => exact mirrors_pure rfl

theorem mirrors_bindParameters (function : Function) (arguments : List Value)
    (keywords : Bindings) :
    Mirrors move (Bindings.moved move) (bindParameters function arguments keywords)
      (bindParameters (function.moved move) (arguments.map (Value.moved move))
        (Bindings.moved move keywords)) := by
  have zipped (names : List Text) : names.zip (arguments.map (Value.moved move)) =
      Bindings.moved move (names.zip arguments) := by
    rw [List.zip_map_right]
    rfl
  unfold bindParameters
  simp only [Function.moved, zipped, ← List.map_drop, List.isEmpty_map]
  refine .refusing fun _ => ?_
  refine (mirrors_bindKeywords function.parameters _ keywords).bind fun taken => ?_
  refine (mirrors_bindDefaults function.defaults taken.1 _).bind fun bound => ?_
  cases function.parameters.rest with
  | none => exact mirrors_bindOthers function.parameters bound taken.2
  | some parameter =>
    have found : Mirrors move _ _ _ := mirrors_bindOthers function.parameters
      (bound ++ [(parameter.name,
        .tuple (arguments.drop (positionalNames function.parameters).length))]) taken.2
    simp only [Bindings.moved, List.map_append, List.map_cons, Value.moved_tuple] at found
    exact found

theorem mirrors_spreadKeywords (value : Value) :
    Mirrors move (Bindings.moved move) (spreadKeywords value)
      (spreadKeywords (value.moved move)) := by
  cases value with
  | dict place =>
    refine (mirrors_dictEntries place).bind fun entries => mirrors_mapM fun entry _ => ?_
    obtain ⟨key, value⟩ := entry
    cases key with
    | text name => exact mirrors_pure rfl
    | _ => exact mirrors_fail _
  | _ => exact mirrors_fail _

theorem mirrors_bringIn (env : Env) (path : List Text) (names : List Import) :
    Mirrors move id (bringIn env path names) (bringIn (env.moved move) path names) := by
  match path, names with
  | [module], [one] =>
    exact .ite (fun _ => Names.mirrors_store _ (.builtin .escape) env) fun _ => mirrors_fail _
  | [], _ | [_], [] | [_], _ :: _ :: _ | _ :: _ :: _, _ => exact mirrors_fail _

/-! ### Entries and targets -/

namespace Gathering

theorem mirrors_insert (found : List (Value × Value)) (entry : Value × Value) :
    Mirrors move (List.map (Value.movedEntry move)) (insert found entry)
      (insert (found.map (Value.movedEntry move)) (Value.movedEntry move entry)) := by
  simp only [insert, Value.movedEntry, isKey_moved]
  exact .refusing fun _ => mirrors_insertKey entry.1 entry.2 found

theorem mirrors_settle (gathering : Gathering) :
    Mirrors move (List.map (Value.movedEntry move)) gathering.settle
      (gathering.moved move).settle :=
  mirrors_foldlM mirrors_insert

theorem mirrors_add (gathering : Gathering) (key value : Value) :
    Mirrors move (Gathering.moved move) (gathering.add key value)
      ((gathering.moved move).add (key.moved move) (value.moved move)) := by
  refine .ite (fun _ => ?_) fun _ => mirrors_pure ?_
  · exact (mirrors_insert gathering.found (key, value)).bind fun found => mirrors_pure rfl
  · simp [Gathering.moved, Value.movedEntry]

end Gathering

def movedTarget (move : Nat → Nat) (pair : Expr × Value) : Expr × Value :=
  (pair.1, pair.2.moved move)

theorem zip_movedTarget (move : Nat → Nat) (targets : List Expr) (values : List Value) :
    targets.zip (values.map (Value.moved move)) = (targets.zip values).map (movedTarget move) := by
  rw [List.zip_map_right]
  rfl

theorem mirrors_distribute (targets : List Expr) (values : List Value) :
    Mirrors move (List.map (movedTarget move)) (distribute targets values)
      (distribute targets (values.map (Value.moved move))) := by
  unfold distribute
  simp only [List.length_map, zip_movedTarget, ← List.map_drop, ← List.map_take]
  split
  next => exact .ite (fun _ => mirrors_pure rfl) fun _ => mirrors_fail _
  next star after _ =>
    refine .refusing fun _ => (mirrors_newList _).bind fun held => mirrors_pure ?_
    simp only [List.map_append, List.map_cons]
    rfl

end Stencil.Script
