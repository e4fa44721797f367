import Stencil.Proofs.Relocation.Operation

/-!
What code finds without defining it does not depend on where values are.
-/

set_option autoImplicit false

namespace Stencil.Script

open Run

variable {move : Nat ↪ Nat}

theorem Bindings.moved_bindName (move : Nat → Nat) (name : Text) (value : Value)
    (bound : Bindings) :
    Bindings.moved move (bindName name value bound) =
      bindName name (value.moved move) (Bindings.moved move bound) := by
  induction bound with
  | nil => rfl
  | cons entry rest ih =>
    rw [Bindings.moved] at ih
    simp only [bindName, Bindings.moved, List.map_cons]
    split
    next => rfl
    next => exact congrArg ((entry.1, entry.2.moved move) :: ·) ih

namespace Builtin

theorem mirrors_integerOf (value : Value) :
    Mirrors move id (integerOf value) (integerOf (value.moved move)) := by
  rw [integerOf, integerOf, Value.integer?_moved]
  split
  next => exact mirrors_pure rfl
  next => exact mirrors_fail _

theorem mirrors_rangeOf (arguments : List Value) :
    Mirrors move (Value.moved move) (rangeOf arguments)
      (rangeOf (arguments.map (Value.moved move))) := by
  refine (mirrors_mapM_id mirrors_integerOf).bind fun found => ?_
  match found with
  | [stop] => exact mirrors_pure rfl
  | [start, stop] => exact mirrors_pure rfl
  | [start, stop, step] => exact .ite (fun _ => mirrors_fail _) fun _ => mirrors_pure rfl
  | [] | _ :: _ :: _ :: _ :: _ => exact mirrors_fail _

theorem mirrors_lengthOf (value : Value) :
    Mirrors move (Value.moved move) (lengthOf value) (lengthOf (value.moved move)) := by
  cases value with
  | text value => exact mirrors_pure rfl
  | tuple items =>
    rw [Value.moved_tuple]
    exact mirrors_pure (by simp [Value.moved])
  | range start stop step => exact .ite (fun _ => mirrors_fail _) fun _ => mirrors_pure rfl
  | list place =>
    exact (mirrors_listItems place).bind fun items => mirrors_pure (by simp [Value.moved])
  | dict place =>
    exact (mirrors_dictEntries place).bind fun entries => mirrors_pure (by simp [Value.moved])
  | datum datum => cases datum <;> first | exact mirrors_pure rfl | exact mirrors_fail _
  | _ => exact mirrors_fail _

theorem mirrors_readInteger (base : Nat) (text : Text) :
    Mirrors move (Value.moved move) (readInteger base text) (readInteger base text) := by
  unfold readInteger
  split
  next => exact mirrors_pure rfl
  next => exact mirrors_fail _

theorem mirrors_toInteger (arguments : List Value) :
    Mirrors move (Value.moved move) (toInteger arguments)
      (toInteger (arguments.map (Value.moved move))) := by
  match arguments with
  | [] => exact mirrors_pure rfl
  | [value] =>
    cases value with
    | text text => exact mirrors_readInteger 10 text
    | real number =>
      simp only [List.map_cons, List.map_nil, Value.moved, toInteger]
      split
      next => exact mirrors_pure rfl
      next => exact mirrors_fail _
    | datum datum => cases datum <;> exact mirrors_fail _
    | _ => first | exact mirrors_pure rfl | exact mirrors_fail _
  | [value, base] =>
    cases value with
    | text text =>
      refine (mirrors_integerOf base).bind fun base => ?_
      exact .ite (fun _ => mirrors_readInteger _ text) fun _ => mirrors_fail _
    | datum datum => cases datum <;> exact mirrors_fail _
    | _ => exact mirrors_fail _
  | value :: _ :: _ :: _ =>
    cases value with
    | datum datum => cases datum <;> exact mirrors_fail _
    | _ => exact mirrors_fail _

theorem mirrors_toText (arguments : List Value) :
    Mirrors move (Value.moved move) (toText arguments)
      (toText (arguments.map (Value.moved move))) := by
  match arguments with
  | [] => exact mirrors_pure rfl
  | [value] =>
    exact (mirrors_displayPoints value).bind fun found => mirrors_pure (Value.moved_ofPoints ..)
  | value :: _ :: _ =>
    cases value with
    | datum datum => cases datum <;> exact mirrors_fail _
    | _ => exact mirrors_fail _

theorem mirrors_escapeOf (arguments : List Value) (keywords : Keywords) :
    Mirrors move (Value.moved move) (escapeOf arguments keywords)
      (escapeOf (arguments.map (Value.moved move)) (Bindings.moved move keywords)) := by
  have all : arguments.map (Value.moved move) ++
      ((Bindings.moved move keywords).filter fun entry => entry.1 == "quote".toList).map (·.2) =
      (arguments ++ (keywords.filter fun entry => entry.1 == "quote".toList).map (·.2)).map
        (Value.moved move) := by
    rw [List.map_append, Bindings.moved, List.filter_map, List.map_map, List.map_map]
    rfl
  unfold escapeOf
  simp only [all]
  rcases arguments ++ (keywords.filter fun entry => entry.1 == "quote".toList).map (·.2) with
    _ | ⟨value, _ | ⟨quotes, _ | ⟨_, _⟩⟩⟩
  next => exact mirrors_fail _
  next =>
    cases value with
    | text text => exact mirrors_pure rfl
    | _ => exact mirrors_fail _
  next =>
    cases value with
    | text text => exact (mirrors_truthy quotes).bind fun found => mirrors_pure rfl
    | _ => exact mirrors_fail _
  next => cases value <;> exact mirrors_fail _

theorem mirrors_apply (builtin : Builtin) (arguments : List Value) (keywords : Keywords) :
    Mirrors move (Value.moved move) (apply builtin arguments keywords)
      (apply builtin (arguments.map (Value.moved move)) (Bindings.moved move keywords)) := by
  cases builtin with
  | escape => exact mirrors_escapeOf arguments keywords
  | range =>
    cases keywords with
    | nil => exact mirrors_rangeOf arguments
    | cons => exact mirrors_fail _
  | length =>
    cases keywords with
    | nil =>
      match arguments with
      | [value] => exact mirrors_lengthOf value
      | [] | _ :: _ :: _ => exact mirrors_fail _
    | cons => exact mirrors_fail _
  | integer =>
    match keywords with
    | [] => exact mirrors_toInteger arguments
    | [(name, base)] =>
      simp only [Bindings.moved, List.map_cons, List.map_nil, apply, List.length_map]
      refine .ite (fun _ => ?_) fun _ => mirrors_fail _
      have found := @mirrors_toInteger move (arguments ++ [base])
      rwa [List.map_append] at found
    | _ :: _ :: _ => exact mirrors_fail _
  | string =>
    match keywords with
    | [] => exact mirrors_toText arguments
    | [(name, value)] =>
      simp only [Bindings.moved, List.map_cons, List.map_nil, apply, List.isEmpty_map]
      exact .ite (fun _ => mirrors_toText [value]) fun _ => mirrors_fail _
    | _ :: _ :: _ => exact mirrors_fail _

theorem mirrors_pointsOf (value : Value) :
    Mirrors move id (pointsOf value) (pointsOf (value.moved move)) := by
  rw [pointsOf, pointsOf, Value.points?_moved]
  split
  next => exact mirrors_pure rfl
  next => exact mirrors_fail _

theorem mirrors_applyMethod (receiver : Value) (method : Method) (arguments : List Value)
    (keywords : Keywords) :
    Mirrors move (Value.moved move) (applyMethod receiver method arguments keywords)
      (applyMethod (receiver.moved move) method (arguments.map (Value.moved move))
        (Bindings.moved move keywords)) := by
  cases method with
  | append =>
    cases receiver with
    | list place =>
      match arguments, keywords with
      | [value], [] =>
        refine (mirrors_listItems place).bind fun items => ?_
        have held : (items ++ [value]).map (Value.moved move) =
            items.map (Value.moved move) ++ [value.moved move] := List.map_append
        rw [← held]
        exact (mirrors_replace place (.list _)).bind fun _ => mirrors_pure rfl
      | [], _ | [_], _ :: _ | _ :: _ :: _, _ => exact mirrors_fail _
    | datum datum => cases datum <;> exact mirrors_fail _
    | _ => exact mirrors_fail _
  | upper =>
    match arguments, keywords with
    | [], [] =>
      cases receiver with
      | text text => exact mirrors_pure rfl
      | datum datum =>
        cases datum with
        | points value => exact mirrors_pure (Value.moved_ofPoints ..)
        | _ => exact mirrors_fail _
      | _ => exact mirrors_fail _
    | [], _ :: _ | _ :: _, _ =>
      cases receiver with
      | datum datum => cases datum <;> exact mirrors_fail _
      | _ => exact mirrors_fail _
  | join =>
    match arguments, keywords with
    | [value], [] =>
      have joins (separator : Value) : Mirrors move (Value.moved move)
          (do
            let parts ← (← value.elements).mapM pointsOf
            return .ofPoints (List.intercalate (← pointsOf separator) parts))
          (do
            let parts ← (← (value.moved move).elements).mapM pointsOf
            return .ofPoints (List.intercalate (← pointsOf (separator.moved move)) parts)) := by
        refine (mirrors_elements value).bind fun items => ?_
        refine (mirrors_mapM_id mirrors_pointsOf).bind fun parts => ?_
        exact (mirrors_pointsOf separator).bind fun found => mirrors_pure (Value.moved_ofPoints ..)
      cases shape : receiver with
      | datum found => cases kind : found <;> exact (kind ▸ joins (.datum found) :)
      | _ => exact (shape ▸ joins receiver :)
    | [], _ | [_], _ :: _ | _ :: _ :: _, _ =>
      cases receiver with
      | datum datum => cases datum <;> exact mirrors_fail _
      | _ => exact mirrors_fail _

theorem mirrors_member (object : Value) (name : Text) :
    Mirrors move (Value.moved move) (member object name) (member (object.moved move) name) := by
  have ofField (fields : Bindings) (fixed : Bindings.moved move fields = fields) :
      Mirrors move (Value.moved move) (member.ofField (findName? name fields))
        (member.ofField (findName? name fields)) := by
    have same := findName?_moved move name fields
    rw [fixed] at same
    cases found : findName? name fields with
    | none => exact mirrors_fail _
    | some value =>
      rw [found, Option.map_some, Option.some_inj] at same
      exact mirrors_pure same.symm
  cases object with
  | page place =>
    refine (mirrors_pageAt place).bind fun page => ?_
    simp only [Page.moved, findName?_moved]
    cases findName? name page.attributes with
    | some value => exact mirrors_pure rfl
    | none =>
      simp only [Option.map_none]
      cases page.kind with
      | page =>
        cases pageMethod? name with
        | some method => exact mirrors_pure rfl
        | none => exact mirrors_fail _
      | _ => exact mirrors_fail _
  | text value =>
    simp only [Value.moved, member]
    exact .ite (fun _ => mirrors_pure rfl) fun _ =>
      .ite (fun _ => mirrors_pure rfl) fun _ => mirrors_fail _
  | list place =>
    simp only [Value.moved, member]
    exact .ite (fun _ => mirrors_pure rfl) fun _ => mirrors_fail _
  | datum datum =>
    cases datum with
    | points value =>
      simp only [Value.moved, member]
      exact .ite (fun _ => mirrors_pure rfl) fun _ =>
        .ite (fun _ => mirrors_pure rfl) fun _ => mirrors_fail _
    | date date => exact ofField (dateFields date) rfl
    | moment moment => exact ofField (momentFields moment) rfl
    | _ => exact mirrors_fail _
  | _ => exact mirrors_fail _

theorem mirrors_setMember (object : Value) (name : Text) (value : Value) :
    Mirrors move id (setMember object name value)
      (setMember (object.moved move) name (value.moved move)) := by
  cases object with
  | page place =>
    refine (mirrors_pageAt place).bind fun page => ?_
    obtain ⟨kind, attributes⟩ := page
    simp only [Page.moved, ← Bindings.moved_bindName]
    cases kind with
    | bare => exact mirrors_fail _
    | _ => exact mirrors_replace place (.page ⟨_, bindName name value attributes⟩)
  | _ => exact mirrors_fail _

end Builtin

end Stencil.Script
