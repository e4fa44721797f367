import Mathlib
import Stencil.Proofs.Outcome
import Stencil.Script.Eval

/-!
Running code on a store: what it finds there, and what it leaves.
-/

set_option autoImplicit false

namespace Stencil.Script

namespace Store

def Holds (store : Store) (place : Nat) (cell : Cell) : Prop := store.cells[place]? = some cell

def push (store : Store) (cell : Cell) : Store := { store with cells := store.cells.push cell }

def put (store : Store) (place : Nat) (cell : Cell) : Store :=
  { store with cells := store.cells.setIfInBounds place cell }

/-- Whether everything in one store is in the other as well. -/
def Keeps (store later : Store) : Prop := ∀ place cell, store.Holds place cell → later.Holds place cell

/-- Whether everything in one store but what is at a place is in the other as well. -/
def KeepsBut (changed : Nat) (store later : Store) : Prop :=
  ∀ place cell, place ≠ changed → store.Holds place cell → later.Holds place cell

variable {store middle later : Store} {place other : Nat} {cell new : Cell}

theorem Keeps.refl (store : Store) : store.Keeps store := fun _ _ held => held

theorem Keeps.trans (first : store.Keeps middle) (second : middle.Keeps later) :
    store.Keeps later :=
  fun place cell held => second place cell (first place cell held)

theorem Holds.lt (held : store.Holds place cell) : place < store.cells.size :=
  (Array.getElem?_eq_some_iff.mp held).1

theorem Holds.apart (held : store.Holds place cell) (other_held : store.Holds other new)
    (different : cell ≠ new) : place ≠ other := by
  rintro rfl
  exact different (Option.some.inj (held.symm.trans other_held))

theorem Keeps.size (keeps : store.Keeps later) : store.cells.size ≤ later.cells.size := by
  refine Nat.le_of_not_lt fun shorter => ?_
  have held : store.Holds later.cells.size store.cells[later.cells.size] :=
    Array.getElem?_eq_getElem shorter
  exact absurd (keeps _ _ held).lt (Nat.lt_irrefl _)

theorem keeps_push (store : Store) (new : Cell) : store.Keeps (store.push new) := by
  intro place cell held
  have apart : place ≠ store.cells.size := Nat.ne_of_lt held.lt
  simpa only [Holds, push, Array.getElem?_push, if_neg apart] using held

theorem holds_push (store : Store) (new : Cell) : (store.push new).Holds store.cells.size new := by
  simp [Holds, push]

theorem size_push (store : Store) (new : Cell) :
    (store.push new).cells.size = store.cells.size + 1 := by
  simp [push]

theorem holds_put (held : store.Holds place cell) (new : Cell) :
    (store.put place new).Holds place new := by
  simp [Holds, put, held.lt]

theorem Holds.put_other (held : store.Holds other cell) (apart : place ≠ other) (new : Cell) :
    (store.put place new).Holds other cell := by
  simpa [Holds, put, Array.getElem?_setIfInBounds, apart] using held

theorem Keeps.but (keeps : store.Keeps later) (changed : Nat) : store.KeepsBut changed later :=
  fun place cell _ held => keeps place cell held

theorem KeepsBut.trans {changed : Nat} (first : store.KeepsBut changed middle)
    (second : middle.KeepsBut changed later) : store.KeepsBut changed later :=
  fun place cell apart held => second place cell apart (first place cell apart held)

theorem keepsBut_put (store : Store) (place : Nat) (new : Cell) :
    store.KeepsBut place (store.put place new) :=
  fun _ _ apart held => held.put_other apart.symm new

theorem size_put (store : Store) (place : Nat) (new : Cell) :
    (store.put place new).cells.size = store.cells.size := by
  simp [put]

end Store

namespace Run

open Store

variable {store : Store} {place : Nat}

theorem allocate_apply (cell : Cell) (store : Store) :
    allocate cell store = .ok store.cells.size (store.push cell) := rfl

theorem replace_apply (place : Nat) (cell : Cell) (store : Store) :
    replace place cell store = .ok () (store.put place cell) := rfl

theorem cell_apply {held : Cell} (holds : store.Holds place held) :
    cell place store = .ok held store := by
  have found : store.cells[place]? = some held := holds
  simp only [cell, Outcome.bind_apply, get, getThe, MonadStateOf.get, EStateM.get, found]
  rfl

theorem listItems_apply {items : List Value} (holds : store.Holds place (.list items)) :
    listItems place store = .ok items store := by
  simp only [listItems, Outcome.bind_apply, cell_apply holds]
  rfl

theorem dictEntries_apply {entries : List (Value × Value)}
    (holds : store.Holds place (.dict entries)) : dictEntries place store = .ok entries store := by
  simp only [dictEntries, Outcome.bind_apply, cell_apply holds]
  rfl

theorem bindings_apply {bound : List (Text × Value)} (holds : store.Holds place (.bindings bound)) :
    bindings place store = .ok bound store := by
  simp only [bindings, Outcome.bind_apply, cell_apply holds]
  rfl

theorem functionAt_apply {function : Function} (holds : store.Holds place (.function function)) :
    functionAt place store = .ok function store := by
  simp only [functionAt, Outcome.bind_apply, cell_apply holds]
  rfl

end Run

namespace Names

open Store

variable {store : Store} {bound : List (Text × Value)} {name : Text} {value : Value}

theorem globalValue_apply {globals : Nat} (holds : store.Holds globals (.bindings bound))
    (found : findName? name bound = some value) :
    globalValue globals name store = .ok value store := by
  simp only [globalValue, Outcome.bind_apply, Run.bindings_apply holds, found]
  rfl

/-- A name that the language gives, where the module does not bind it. -/
theorem globalValue_builtin {globals : Nat} {builtin : Builtin}
    (holds : store.Holds globals (.bindings bound)) (unbound : findName? name bound = none)
    (known : Builtin.ofName? name = some builtin) :
    globalValue globals name store = .ok (.builtin builtin) store := by
  simp only [globalValue, Outcome.bind_apply, Run.bindings_apply holds, unbound, known]
  rfl

/-- A name of the innermost function. -/
theorem value_local {frame : Frame} {outer : List Frame} {globals depth : Nat}
    (holds : store.Holds frame.place (.bindings bound)) (undeclared : name ∉ frame.globals)
    (inside : name ∈ frame.locals) (found : findName? name bound = some value) :
    Names.value name ⟨frame :: outer, globals, depth⟩ store = .ok value store := by
  simp only [Names.value, List.contains_iff_mem.mpr inside, List.contains_eq_mem, undeclared,
    decide_false, Bool.false_eq_true, if_false, if_true, Outcome.bind_apply,
    Run.bindings_apply holds, found]
  rfl

/-- Whether a name belongs to none of some functions. -/
def Foreign (name : Text) (frames : List Frame) : Prop :=
  ∀ frame ∈ frames, name ∉ frame.locals ∧ name ∉ frame.globals

/-- A global name, seen from functions that it does not belong to. -/
theorem value_outside {frames : List Frame} {globals depth : Nat} (foreign : Foreign name frames)
    (found : globalValue globals name store = .ok value store) :
    Names.value name ⟨frames, globals, depth⟩ store = .ok value store := by
  have free (frames : List Frame) (foreign : Foreign name frames) :
      freeValue globals name frames store = .ok value store := by
    induction frames with
    | nil => exact found
    | cons frame outer ih =>
      obtain ⟨unbound, undeclared⟩ := foreign frame (List.mem_cons_self ..)
      simp only [freeValue, List.contains_eq_mem, undeclared, unbound, decide_false,
        Bool.false_eq_true, if_false]
      exact ih fun one member => foreign one (List.mem_cons_of_mem _ member)
  cases frames with
  | nil => exact found
  | cons frame outer =>
    have same : Names.value name ⟨frame :: outer, globals, depth⟩ store =
        freeValue globals name (frame :: outer) store := by
      obtain ⟨unbound, undeclared⟩ := foreign frame (List.mem_cons_self ..)
      simp only [Names.value, freeValue, List.contains_eq_mem, undeclared, unbound, decide_false,
        Bool.false_eq_true, if_false]
    rw [same]
    exact free _ foreign

/-- A name of a function around, seen from functions in it that it does not belong to. -/
theorem value_through {above outer : List Frame} {frame : Frame} {globals depth : Nat}
    (holds : store.Holds frame.place (.bindings bound)) (foreign : Foreign name above)
    (undeclared : name ∉ frame.globals) (inside : name ∈ frame.locals)
    (found : findName? name bound = some value) :
    Names.value name ⟨above ++ frame :: outer, globals, depth⟩ store = .ok value store := by
  have free (above : List Frame) (foreign : Foreign name above) :
      freeValue globals name (above ++ frame :: outer) store = .ok value store := by
    induction above with
    | nil =>
      simp only [List.nil_append, freeValue, List.contains_eq_mem, inside, undeclared, decide_false,
        decide_true, Bool.false_eq_true, if_false, if_true, Outcome.bind_apply,
        Run.bindings_apply holds, found]
      rfl
    | cons first rest ih =>
      obtain ⟨unbound, other⟩ := foreign first (List.mem_cons_self ..)
      simp only [List.cons_append, freeValue, List.contains_eq_mem, other, unbound, decide_false,
        Bool.false_eq_true, if_false]
      exact ih fun one member => foreign one (List.mem_cons_of_mem _ member)
  cases above with
  | nil => exact value_local holds undeclared inside found
  | cons first rest =>
    obtain ⟨unbound, other⟩ := foreign first (List.mem_cons_self ..)
    have same : Names.value name ⟨(first :: rest) ++ frame :: outer, globals, depth⟩ store =
        freeValue globals name ((first :: rest) ++ frame :: outer) store := by
      simp only [List.cons_append, Names.value, freeValue, List.contains_eq_mem, other, unbound,
        decide_false, Bool.false_eq_true, if_false]
    rw [same]
    exact free _ foreign

theorem store_global {globals depth : Nat} (holds : store.Holds globals (.bindings bound))
    (name : Text) (value : Value) :
    Names.store name value ⟨[], globals, depth⟩ store =
      .ok () (store.put globals (.bindings (bindName name value bound))) := by
  simp only [Names.store, owner, Outcome.bind_apply, Run.bindings_apply holds, Run.replace_apply]

theorem store_local {frame : Frame} {outer : List Frame} {globals depth : Nat}
    (holds : store.Holds frame.place (.bindings bound)) (undeclared : name ∉ frame.globals)
    (inside : name ∈ frame.locals) (value : Value) :
    Names.store name value ⟨frame :: outer, globals, depth⟩ store =
      .ok () (store.put frame.place (.bindings (bindName name value bound))) := by
  have owned : owner globals name (frame :: outer) = frame.place := by
    simp [owner, undeclared, inside]
  simp only [Names.store, owned, Outcome.bind_apply, Run.bindings_apply holds, Run.replace_apply]

end Names

end Stencil.Script
