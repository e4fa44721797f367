import Stencil.Proofs.Relocation.Store
import Stencil.Script.Comparison

/-!
What values show and how they compare does not depend on where they are.
-/

set_option autoImplicit false

namespace Stencil.Script

open Run

variable {move : Nat ↪ Nat}

namespace Value

@[simp] theorem moved_tuple (move : Nat → Nat) (items : List Value) :
    (tuple items).moved move = tuple (items.map (moved move)) := by
  rw [moved, movedAll_eq]

@[simp] theorem moved_ofPoints (move : Nat → Nat) (points : Points) :
    (ofPoints points).moved move = ofPoints points := by
  unfold ofPoints
  split <;> rfl

@[simp] theorem integer?_moved (move : Nat → Nat) (value : Value) :
    (value.moved move).integer? = value.integer? := by
  cases value <;> rfl

@[simp] theorem points?_moved (move : Nat → Nat) (value : Value) :
    (value.moved move).points? = value.points? := by
  cases value <;> rfl

@[simp] theorem isReal_moved (move : Nat → Nat) (value : Value) :
    (value.moved move).isReal = value.isReal := by
  cases value <;> rfl

@[simp] theorem isNumber_moved (move : Nat → Nat) (value : Value) :
    (value.moved move).isNumber = value.isNumber := by
  rw [isNumber, integer?_moved, isReal_moved, isNumber]

@[simp] theorem isSet_moved (move : Nat → Nat) (value : Value) :
    (value.moved move).isSet = value.isSet := by
  cases value <;> rfl

end Value

theorem contains_moved (places : List Nat) (place : Nat) :
    (places.map move).contains (move place) = places.contains place := by
  simp [List.contains_eq_mem]

/-! ### Data -/

mutual

theorem mirrors_ofDatum (datum : Datum) :
    Mirrors move (Value.moved move) (Value.ofDatum datum) (Value.ofDatum datum) := by
  cases datum with
  | list items => exact (mirrors_valuesOf items).bind fun found => mirrors_newList found
  | tuple items =>
    exact (mirrors_valuesOf items).bind fun found => mirrors_pure (Value.moved_tuple ..)
  | dict entries =>
    refine (mirrors_entriesOf entries).bind fun found => ?_
    exact (mirrors_allocate (.dict found)).bind fun place => mirrors_pure rfl
  | _ => exact mirrors_pure rfl

theorem mirrors_valuesOf (data : List Datum) :
    Mirrors move (List.map (Value.moved move)) (valuesOf data) (valuesOf data) := by
  cases data with
  | nil => exact mirrors_pure rfl
  | cons datum rest =>
    refine (mirrors_ofDatum datum).bind fun first => ?_
    exact (mirrors_valuesOf rest).bind fun others => mirrors_pure rfl

theorem mirrors_entriesOf (data : List (Datum × Datum)) :
    Mirrors move (List.map (Value.movedEntry move)) (entriesOf data) (entriesOf data) := by
  cases data with
  | nil => exact mirrors_pure rfl
  | cons entry rest =>
    obtain ⟨key, value⟩ := entry
    refine (mirrors_ofDatum key).bind fun key => (mirrors_ofDatum value).bind fun value => ?_
    exact (mirrors_entriesOf rest).bind fun others => mirrors_pure rfl

end

theorem mirrors_snapshot (depth : Nat) (outer : List Nat) (value : Value) :
    Mirrors move id (value.snapshot depth outer)
      ((value.moved move).snapshot depth (outer.map move)) := by
  induction depth generalizing outer value with
  | zero => exact mirrors_fail _
  | succ depth ih =>
    cases value with
    | integer value =>
      simp only [Value.moved, Value.snapshot]
      exact .ite (fun _ => mirrors_fail _) fun _ => mirrors_pure rfl
    | tuple items =>
      rw [Value.moved_tuple, Value.snapshot, Value.snapshot]
      exact (mirrors_mapM_id (ih outer)).bind fun found => mirrors_pure rfl
    | list place =>
      rw [Value.moved, Value.snapshot, Value.snapshot, contains_moved]
      refine .ite (fun _ => mirrors_pure rfl) fun _ => ?_
      refine (mirrors_listItems place).bind fun items => ?_
      exact (mirrors_mapM_id (ih (place :: outer))).bind fun found => mirrors_pure rfl
    | dict place =>
      rw [Value.moved, Value.snapshot, Value.snapshot, contains_moved]
      refine .ite (fun _ => mirrors_pure rfl) fun _ => ?_
      refine (mirrors_dictEntries place).bind fun entries => ?_
      refine (mirrors_mapM_id fun entry => ?_).bind fun found => mirrors_pure rfl
      refine (ih (place :: outer) entry.1).bind fun key => ?_
      exact (ih (place :: outer) entry.2).bind fun value => mirrors_pure rfl
    | none | bool | real | text | datum => exact mirrors_pure rfl
    | range | function | builtin | method | page | pageMethod | giver => exact mirrors_fail _

theorem mirrors_current (value : Value) :
    Mirrors move id value.current (value.moved move).current :=
  mirrors_snapshot maximalNesting [] value

theorem mirrors_display (value : Value) :
    Mirrors move id value.display (value.moved move).display := by
  have other (value : Value) : Mirrors move id (do return (← value.current).display)
      (do return (← (value.moved move).current).display) :=
    (mirrors_current value).bind fun found => mirrors_pure rfl
  cases value with
  | page place =>
    refine (mirrors_pageAt place).bind fun page => ?_
    obtain ⟨kind, attributes⟩ := page
    cases kind with
    | «namespace» =>
      refine (mirrors_mapM_id fun entry => ?_).bind fun found => mirrors_pure rfl
      exact (mirrors_current entry.2).bind fun found => mirrors_pure rfl
    | _ => exact mirrors_fail _
  | builtin found => cases found <;> first | exact mirrors_pure rfl | exact mirrors_fail _
  | range start stop step =>
    by_cases single : step = 1
    next =>
      cases single
      exact mirrors_pure rfl
    next =>
      simp only [Value.moved, Value.display]
      exact mirrors_pure rfl
  | tuple items =>
    have shown := other (.tuple items)
    rw [Value.moved_tuple] at shown ⊢
    exact shown
  | _ => exact other _

theorem mirrors_displayPoints (value : Value) :
    Mirrors move id value.displayPoints (value.moved move).displayPoints := by
  rw [Value.displayPoints, Value.displayPoints, Value.points?_moved]
  split
  next => exact mirrors_pure rfl
  next => exact (mirrors_display value).bind fun found => mirrors_pure rfl

theorem mirrors_shown (value : Value) : Mirrors move id value.shown (value.moved move).shown := by
  have other (value : Value) : Mirrors move id (do return (← value.current).shown)
      (do return (← (value.moved move).current).shown) :=
    (mirrors_current value).bind fun found => mirrors_pure rfl
  cases value with
  | range start stop step => exact mirrors_display (.range start stop step)
  | page place => exact mirrors_display (.page place)
  | builtin found => exact mirrors_display (.builtin found)
  | tuple items =>
    have shown := other (.tuple items)
    rw [Value.moved_tuple] at shown ⊢
    exact shown
  | _ => exact other _

/-! ### Truth, equality and order -/

theorem mirrors_toReal (value : Value) : Mirrors move id value.toReal (value.moved move).toReal := by
  cases value with
  | bool value => exact .ite (fun _ => mirrors_fail _) fun _ => mirrors_pure rfl
  | integer value => exact .ite (fun _ => mirrors_fail _) fun _ => mirrors_pure rfl
  | real value => exact mirrors_pure rfl
  | _ => exact mirrors_fail _

theorem mirrors_truthy (value : Value) : Mirrors move id value.truthy (value.moved move).truthy := by
  cases value with
  | tuple items =>
    rw [Value.moved_tuple]
    exact mirrors_pure (by simp)
  | list place => exact (mirrors_listItems place).bind fun items => mirrors_pure (by simp)
  | dict place => exact (mirrors_dictEntries place).bind fun entries => mirrors_pure (by simp)
  | _ => exact mirrors_pure rfl

theorem mirrors_elements (value : Value) :
    Mirrors move (List.map (Value.moved move)) value.elements (value.moved move).elements := by
  cases value with
  | text value => exact mirrors_pure (by simp [Value.moved])
  | tuple items =>
    rw [Value.moved_tuple]
    exact mirrors_pure rfl
  | range start stop step => exact mirrors_pure (by simp [Value.moved])
  | list place => exact mirrors_listItems place
  | dict place =>
    exact (mirrors_dictEntries place).bind fun entries =>
      mirrors_pure (by simp [Value.movedEntry])
  | datum datum =>
    cases datum with
    | set items => exact mirrors_valuesOf items
    | bytes value => exact mirrors_pure (by simp [Value.moved])
    | points value => exact mirrors_pure (by simp)
    | _ => exact mirrors_fail _
  | _ => exact mirrors_fail _

theorem mirrors_anyM {items : List Value} {test other : Value → Run Bool}
    (each : ∀ item, Mirrors move id (test item) (other (item.moved move))) :
    Mirrors move id (Value.anyM test items) (Value.anyM other (items.map (Value.moved move))) := by
  induction items with
  | nil => exact mirrors_pure rfl
  | cons item rest ih =>
    refine (each item).bind fun found => ?_
    exact .ite (fun _ => mirrors_pure rfl) fun _ => ih

theorem mirrors_allM₂ {left right : List Value} {test other : Value → Value → Run Bool}
    (each : ∀ one two, Mirrors move id (test one two) (other (one.moved move) (two.moved move))) :
    Mirrors move id (Value.allM₂ test left right)
      (Value.allM₂ other (left.map (Value.moved move)) (right.map (Value.moved move))) := by
  induction left generalizing right with
  | nil => cases right <;> exact mirrors_pure rfl
  | cons one left ih =>
    cases right with
    | nil => exact mirrors_pure rfl
    | cons two right =>
      refine (each one two).bind fun found => ?_
      exact .ite (fun _ => ih) fun _ => mirrors_pure rfl

theorem mirrors_lookupWith {entries : List (Value × Value)} {test other : Value → Run Bool}
    (each : ∀ key, Mirrors move id (test key) (other (key.moved move))) :
    Mirrors move (Option.map (Value.moved move)) (Value.lookupWith test entries)
      (Value.lookupWith other (entries.map (Value.movedEntry move))) := by
  induction entries with
  | nil => exact mirrors_pure rfl
  | cons entry rest ih =>
    refine (each entry.1).bind fun found => ?_
    exact .ite (fun _ => mirrors_pure rfl) fun _ => ih

theorem findName?_moved (move : Nat → Nat) (name : Text) (bound : Bindings) :
    findName? name (Bindings.moved move bound) = (findName? name bound).map (Value.moved move) := by
  rw [findName?, findName?, Bindings.moved, List.find?_map, Option.map_map, Option.map_map]
  rfl

theorem ctorIdx_moved (move : Nat → Nat) (value : Value) :
    (value.moved move).ctorIdx = value.ctorIdx := by
  cases value <;> rfl

/-- Moving keeps the forms of values. -/
theorem apart_moved {move : Nat → Nat} {left right : Value}
    (apart : left.ctorIdx ≠ right.ctorIdx) :
    (left.moved move).ctorIdx ≠ (right.moved move).ctorIdx := by
  rwa [ctorIdx_moved, ctorIdx_moved]

theorem compareNumbers_moved (move : Nat → Nat) (left right : Value) :
    Value.compareNumbers (left.moved move) (right.moved move) =
      Value.compareNumbers left right := by
  cases left <;> cases right <;> rfl

/-- Values of two forms are equal as numbers are, or not at all. -/
theorem same_of_apart (depth : Nat) {left right : Value} (apart : left.ctorIdx ≠ right.ctorIdx) :
    Value.same (depth + 1) left right =
      (pure (Value.compareNumbers left right == some .eq) : Run Bool) := by
  rw [Value.same]
  all_goals
    intros
    subst_vars
    exact apart rfl

theorem same_datum (depth : Nat) (one other : Datum) :
    ∃ found, Value.same (depth + 1) (.datum one) (.datum other) = (pure found : Run Bool) := by
  by_cases sets : ∃ items others, one = .set items ∧ other = .set others
  next =>
    obtain ⟨items, others, rfl, rfl⟩ := sets
    exact ⟨_, rfl⟩
  next =>
    refine ⟨one.sameKey other, ?_⟩
    rw [Value.same]
    exact fun items others same also => sets ⟨items, others, same, also⟩

theorem mirrors_same (depth : Nat) (left right : Value) :
    Mirrors move id (Value.same depth left right)
      (Value.same depth (left.moved move) (right.moved move)) := by
  induction depth generalizing left right with
  | zero => exact mirrors_fail _
  | succ depth ih =>
    by_cases alike : right.ctorIdx = left.ctorIdx
    next =>
      cases left with
      | none => exact Value.none.elim right alike (mirrors_pure rfl)
      | bool one => exact Value.bool.elim right alike fun other => mirrors_pure rfl
      | integer one => exact Value.integer.elim right alike fun other => mirrors_pure rfl
      | real one => exact Value.real.elim right alike fun other => mirrors_pure rfl
      | text one => exact Value.text.elim right alike fun other => mirrors_pure rfl
      | tuple one =>
        refine Value.tuple.elim right alike fun other => ?_
        rw [Value.moved_tuple, Value.moved_tuple]
        exact mirrors_allM₂ ih
      | range start stop step =>
        exact Value.range.elim right alike fun _ _ _ => mirrors_pure rfl
      | list one =>
        refine Value.list.elim right alike fun other => ?_
        simp only [Value.moved, Value.same, move.injective.eq_iff]
        refine .ite (fun _ => mirrors_pure rfl) fun _ => ?_
        refine (mirrors_listItems one).bind fun items => ?_
        exact (mirrors_listItems other).bind fun others => mirrors_allM₂ ih
      | dict one =>
        refine Value.dict.elim right alike fun other => ?_
        refine (mirrors_dictEntries one).bind fun entries => ?_
        refine (mirrors_dictEntries other).bind fun others => ?_
        rw [List.length_map, List.length_map]
        refine .ite (fun _ => mirrors_pure rfl) fun _ => ?_
        refine (mirrors_filterM fun entry => ?_).bind fun missing => mirrors_pure (by simp)
        refine (mirrors_lookupWith (ih entry.1)).bind fun found => ?_
        cases found with
        | none => exact mirrors_pure rfl
        | some value => exact (ih entry.2 value).bind fun equal => mirrors_pure rfl
      | function one =>
        refine Value.function.elim right alike fun other => ?_
        simp only [Value.moved, Value.same]
        exact mirrors_pure (by rw [Bool.eq_iff_iff]; simp)
      | builtin one => exact Value.builtin.elim right alike fun other => mirrors_pure rfl
      | method => exact Value.method.elim right alike fun _ _ => mirrors_fail _
      | page one =>
        refine Value.page.elim right alike fun other => ?_
        simp only [Value.moved, Value.same, move.injective.eq_iff]
        refine .ite (fun _ => mirrors_pure rfl) fun _ => ?_
        refine (mirrors_pageAt one).bind fun first => (mirrors_pageAt other).bind fun second => ?_
        simp only [Page.moved, Bindings.moved, List.length_map]
        refine .ite (fun _ => ?_) fun _ => mirrors_pure rfl
        refine mirrors_allM fun entry => ?_
        have named := findName?_moved move entry.1 second.attributes
        rw [Bindings.moved] at named
        rw [named]
        cases findName? entry.1 second.attributes with
        | none => exact mirrors_pure rfl
        | some value => exact ih entry.2 value
      | pageMethod one => exact Value.pageMethod.elim right alike fun other => mirrors_pure rfl
      | giver one => exact Value.giver.elim right alike fun other => mirrors_pure rfl
      | datum one =>
        refine Value.datum.elim right alike fun other => ?_
        obtain ⟨found, same⟩ := same_datum depth one other
        show Mirrors move id (Value.same (depth + 1) (.datum one) (.datum other))
          (Value.same (depth + 1) (.datum one) (.datum other))
        rw [same]
        exact mirrors_pure rfl
    next =>
      -- Values of two forms are the same only as numbers.
      have apart := Ne.symm alike
      rw [same_of_apart depth apart, same_of_apart depth (apart_moved apart), compareNumbers_moved]
      exact mirrors_pure rfl

theorem mirrors_equal (left right : Value) :
    Mirrors move id (Value.equal left right) (Value.equal (left.moved move) (right.moved move)) :=
  mirrors_same maximalNesting left right

theorem mirrors_orderItems {test other : Value → Value → Run (Option Ordering)}
    {left right : List Value}
    (each : ∀ one two, Mirrors move id (test one two) (other (one.moved move) (two.moved move))) :
    Mirrors move id (Value.order.orderItems test left right)
      (Value.order.orderItems other (left.map (Value.moved move))
        (right.map (Value.moved move))) := by
  induction left generalizing right with
  | nil => cases right <;> exact mirrors_pure rfl
  | cons one left ih =>
    cases right with
    | nil => exact mirrors_pure rfl
    | cons two right =>
      refine (mirrors_equal one two).bind fun found => ?_
      exact .ite (fun _ => ih) fun _ => each one two

/-- How values of two forms are ordered: as points where both are, else as numbers. -/
def orderApart (left right : Value) : Run (Option Ordering) :=
  match left.points?, right.points? with
  | some one, some other =>
    return some (if one == other then .eq else if one.precedes other then .lt else .gt)
  | _, _ =>
    if left.isNumber && right.isNumber then return left.compareNumbers right
    else Run.fail .wrongType

theorem order_of_apart (depth : Nat) {left right : Value} (apart : left.ctorIdx ≠ right.ctorIdx) :
    Value.order (depth + 1) left right = orderApart left right := by
  rw [Value.order]
  · unfold orderApart
    cases left.points? <;> cases right.points? <;> rfl
  all_goals
    intros
    subst_vars
    exact apart rfl

theorem mirrors_orderApart (left right : Value) :
    Mirrors move id (orderApart left right) (orderApart (left.moved move) (right.moved move)) := by
  unfold orderApart
  rw [Value.points?_moved, Value.points?_moved, Value.isNumber_moved, Value.isNumber_moved,
    compareNumbers_moved]
  split
  next => exact mirrors_pure rfl
  next => exact .ite (fun _ => mirrors_pure rfl) fun _ => mirrors_fail _

theorem order_datum (depth : Nat) (one other : Datum) :
    (∃ found, Value.order (depth + 1) (.datum one) (.datum other) =
      (pure found : Run (Option Ordering))) ∨
    Value.order (depth + 1) (.datum one) (.datum other) =
      (Run.fail .wrongType : Run (Option Ordering)) := by
  rw [Value.order.eq_def]
  dsimp only
  split
  next text _ => cases text
  next tuple _ => cases tuple
  next list _ => cases list
  next => exact .inl ⟨_, rfl⟩
  next => exact .inl ⟨_, rfl⟩
  next =>
    split
    next => exact .inl ⟨_, rfl⟩
    next => exact .inr rfl
  next =>
    split
    next => exact .inl ⟨_, rfl⟩
    next => exact .inr rfl

theorem mirrors_order (depth : Nat) (left right : Value) :
    Mirrors move id (Value.order depth left right)
      (Value.order depth (left.moved move) (right.moved move)) := by
  induction depth generalizing left right with
  | zero => exact mirrors_fail _
  | succ depth ih =>
    by_cases alike : right.ctorIdx = left.ctorIdx
    next =>
      cases left with
      | none => exact Value.none.elim right alike (mirrors_fail _)
      | bool one => exact Value.bool.elim right alike fun other => mirrors_pure rfl
      | integer one => exact Value.integer.elim right alike fun other => mirrors_pure rfl
      | real one => exact Value.real.elim right alike fun other => mirrors_pure rfl
      | text one => exact Value.text.elim right alike fun other => mirrors_pure rfl
      | tuple one =>
        refine Value.tuple.elim right alike fun other => ?_
        rw [Value.moved_tuple, Value.moved_tuple]
        exact mirrors_orderItems ih
      | range => exact Value.range.elim right alike fun _ _ _ => mirrors_fail _
      | list one =>
        refine Value.list.elim right alike fun other => ?_
        refine (mirrors_listItems one).bind fun items => ?_
        exact (mirrors_listItems other).bind fun others => mirrors_orderItems ih
      | dict => exact Value.dict.elim right alike fun _ => mirrors_fail _
      | function => exact Value.function.elim right alike fun _ => mirrors_fail _
      | builtin => exact Value.builtin.elim right alike fun _ => mirrors_fail _
      | method => exact Value.method.elim right alike fun _ _ => mirrors_fail _
      | page => exact Value.page.elim right alike fun _ => mirrors_fail _
      | pageMethod => exact Value.pageMethod.elim right alike fun _ => mirrors_fail _
      | giver => exact Value.giver.elim right alike fun _ => mirrors_fail _
      | datum one =>
        refine Value.datum.elim right alike fun other => ?_
        show Mirrors move id (Value.order (depth + 1) (.datum one) (.datum other))
          (Value.order (depth + 1) (.datum one) (.datum other))
        rcases order_datum depth one other with ⟨found, ends⟩ | ends
        all_goals rw [ends]
        · exact mirrors_pure rfl
        · exact mirrors_fail _
    next =>
      have apart := Ne.symm alike
      rw [order_of_apart depth apart, order_of_apart depth (apart_moved apart)]
      exact mirrors_orderApart left right

theorem mirrors_ordered (test : Ordering → Bool) (left right : Value) :
    Mirrors move id (Value.ordered test left right)
      (Value.ordered test (left.moved move) (right.moved move)) :=
  (mirrors_order maximalNesting left right).bind fun _ => mirrors_pure rfl

/-! ### Membership -/

mutual

theorem isKey_moved (move : Nat → Nat) (value : Value) :
    (value.moved move).isKey = value.isKey := by
  cases value with
  | tuple items => exact areKeys_moved move items
  | _ => rfl

theorem areKeys_moved (move : Nat → Nat) (items : List Value) :
    Value.isKey.areKeys (movedAll move items) = Value.isKey.areKeys items := by
  cases items with
  | nil => rfl
  | cons item rest =>
    rw [movedAll, Value.isKey.areKeys, Value.isKey.areKeys, isKey_moved, areKeys_moved]

end

/-- Whether a number is the value of one of some bytes. -/
def Value.byteAmong (whole : List UInt8) (item : Value) : Run Bool :=
  match item.integer? with
  | some number =>
    if number < 0 ∨ 255 < number then Run.fail .wrongValue
    else return whole.contains (UInt8.ofNat number.toNat)
  | Option.none => Run.fail .wrongType

theorem mirrors_byteAmong (whole : List UInt8) (item : Value) :
    Mirrors move id (item.byteAmong whole) ((item.moved move).byteAmong whole) := by
  unfold Value.byteAmong
  rw [Value.integer?_moved]
  split
  next => exact .ite (fun _ => mirrors_fail _) fun _ => mirrors_pure rfl
  next => exact mirrors_fail _

theorem mirrors_contains (container item : Value) :
    Mirrors move id (container.contains item) ((container.moved move).contains (item.moved move)) := by
  -- what is no text, no bytes, no range and no dictionary
  have among (container : Value) : Mirrors move id
      (do
        if container.isSet && !(item.isKey || item.isSet) then Run.fail .wrongType
        Value.anyM (Value.equal item) (← container.elements))
      (do
        if (container.moved move).isSet && !((item.moved move).isKey || (item.moved move).isSet) then
          Run.fail .wrongType
        Value.anyM (Value.equal (item.moved move)) (← (container.moved move).elements)) := by
    rw [Value.isSet_moved, Value.isSet_moved, isKey_moved]
    refine .refusing fun _ => ?_
    exact (mirrors_elements container).bind fun _ => mirrors_anyM (mirrors_equal item)
  cases shape : container with
  | text whole =>
    cases item with
    | text part => exact mirrors_pure rfl
    | datum datum => cases datum <;> first | exact mirrors_pure rfl | exact mirrors_fail _
    | _ => exact mirrors_fail _
  | dict place =>
    simp only [Value.moved, Value.contains, isKey_moved]
    refine .refusing fun _ => (mirrors_dictEntries place).bind fun entries => ?_
    have keys : (entries.map (Value.movedEntry move)).map (·.1) =
        (entries.map (·.1)).map (Value.moved move) := by
      rw [List.map_map, List.map_map]
      rfl
    rw [keys]
    exact mirrors_anyM (mirrors_equal item)
  | range start stop step =>
    cases item with
    | integer | bool => exact mirrors_pure rfl
    | _ => exact among (.range start stop step)
  | datum found =>
    cases kind : found with
    | points whole =>
      simp only [Value.moved, Value.contains, Value.points?_moved]
      cases item.points? with
      | some found => exact mirrors_pure rfl
      | none => exact mirrors_fail _
    | bytes whole =>
      cases other : item with
      | datum part =>
        cases form : part with
        | bytes part => exact mirrors_pure rfl
        | _ => exact (form ▸ mirrors_byteAmong whole (.datum part) :)
      | _ => exact (other ▸ mirrors_byteAmong whole item :)
    | _ => exact (kind ▸ among (.datum found) :)
  | _ => exact (shape ▸ among container :)

theorem mirrors_identical (left right : Value) :
    Mirrors move id (left.identical right) ((left.moved move).identical (right.moved move)) := by
  cases left with
  | none => cases right <;> exact mirrors_pure rfl
  | bool one => cases right <;> exact mirrors_pure rfl
  | list one =>
    cases right with
    | list other => exact mirrors_pure (by rw [Bool.eq_iff_iff]; simp)
    | none | bool => exact mirrors_pure rfl
    | _ => exact mirrors_fail _
  | dict one =>
    cases right with
    | dict other => exact mirrors_pure (by rw [Bool.eq_iff_iff]; simp)
    | none | bool => exact mirrors_pure rfl
    | _ => exact mirrors_fail _
  | page one =>
    cases right with
    | page other => exact mirrors_pure (by rw [Bool.eq_iff_iff]; simp)
    | none | bool => exact mirrors_pure rfl
    | _ => exact mirrors_fail _
  | _ =>
    cases right with
    | none | bool => exact mirrors_pure rfl
    | _ => exact mirrors_fail _

theorem mirrors_compareBy (op : Comparison) (left right : Value) :
    Mirrors move id (Value.compareBy op left right)
      (Value.compareBy op (left.moved move) (right.moved move)) := by
  cases op with
  | equal => exact mirrors_equal left right
  | notEqual => exact (mirrors_equal left right).bind fun _ => mirrors_pure rfl
  | less | lessEqual | greater | greaterEqual => exact mirrors_ordered _ left right
  | «is» => exact mirrors_identical left right
  | isNot => exact (mirrors_identical left right).bind fun _ => mirrors_pure rfl
  | isIn => exact mirrors_contains right left
  | notIn => exact (mirrors_contains right left).bind fun _ => mirrors_pure rfl

end Stencil.Script
