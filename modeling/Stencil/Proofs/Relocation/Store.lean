import Mathlib.Logic.Embedding.Basic
import Stencil.Proofs.Script.Store

/-!
Values in other places. A store may hold what another one holds, each cell elsewhere, and more
besides; code that runs on both takes the same course.
-/

set_option autoImplicit false

namespace Stencil.Script

mutual

/-- A value whose places are others. -/
def Value.moved (move : Nat → Nat) : Value → Value
  | .tuple items => .tuple (movedAll move items)
  | .list place => .list (move place)
  | .dict place => .dict (move place)
  | .function place => .function (move place)
  | .method receiver method => .method (receiver.moved move) method
  | .page place => .page (move place)
  | .giver value => .giver (value.moved move)
  | other => other

def movedAll (move : Nat → Nat) : List Value → List Value
  | [] => []
  | value :: rest => value.moved move :: movedAll move rest

end

abbrev Bindings := List (Text × Value)

def Bindings.moved (move : Nat → Nat) (bound : Bindings) : Bindings :=
  bound.map fun entry => (entry.1, entry.2.moved move)

def Value.movedEntry (move : Nat → Nat) (entry : Value × Value) : Value × Value :=
  (entry.1.moved move, entry.2.moved move)

def Frame.moved (move : Nat → Nat) (frame : Frame) : Frame :=
  { frame with place := move frame.place }

def Function.moved (move : Nat → Nat) (function : Function) : Function :=
  { function with
    defaults := Bindings.moved move function.defaults
    outer := function.outer.map (Frame.moved move)
    globals := move function.globals }

def Page.moved (move : Nat → Nat) (page : Page) : Page :=
  { page with attributes := Bindings.moved move page.attributes }

def Cell.moved (move : Nat → Nat) : Cell → Cell
  | .list items => .list (items.map (Value.moved move))
  | .dict entries => .dict (entries.map (Value.movedEntry move))
  | .bindings bound => .bindings (Bindings.moved move bound)
  | .function found => .function (found.moved move)
  | .page found => .page (found.moved move)

theorem movedAll_eq (move : Nat → Nat) (items : List Value) :
    movedAll move items = items.map (Value.moved move) := by
  induction items with
  | nil => rfl
  | cons item rest ih => rw [movedAll, ih, List.map_cons]

mutual

theorem Value.moved_id (value : Value) : value.moved id = value := by
  cases value with
  | tuple items => exact congrArg Value.tuple (movedAll_id items)
  | method receiver method => exact congrArg (Value.method · method) (Value.moved_id receiver)
  | giver value => exact congrArg Value.giver (Value.moved_id value)
  | _ => rfl

theorem movedAll_id (items : List Value) : movedAll id items = items := by
  cases items with
  | nil => rfl
  | cons item rest => rw [movedAll, Value.moved_id, movedAll_id]

end

mutual

theorem Value.moved_moved (first second : Nat → Nat) (value : Value) :
    (value.moved first).moved second = value.moved (second ∘ first) := by
  cases value with
  | tuple items => exact congrArg Value.tuple (movedAll_movedAll first second items)
  | method receiver method =>
    exact congrArg (Value.method · method) (Value.moved_moved first second receiver)
  | giver value => exact congrArg Value.giver (Value.moved_moved first second value)
  | _ => rfl

theorem movedAll_movedAll (first second : Nat → Nat) (items : List Value) :
    movedAll second (movedAll first items) = movedAll (second ∘ first) items := by
  cases items with
  | nil => rfl
  | cons item rest =>
    rw [movedAll, movedAll, movedAll, Value.moved_moved, movedAll_movedAll]

end

theorem Cell.moved_id (cell : Cell) : cell.moved id = cell := by
  have values : Value.moved id = id := funext Value.moved_id
  have entries : Value.movedEntry id = id := funext fun entry => by
    simp [Value.movedEntry, Value.moved_id]
  have bound (found : Bindings) : Bindings.moved id found = found := by
    simp [Bindings.moved, Value.moved_id]
  have frames : Frame.moved id = id := rfl
  cases cell with
  | list items => rw [Cell.moved, values, List.map_id]
  | dict found => rw [Cell.moved, entries, List.map_id]
  | bindings found => rw [Cell.moved, bound]
  | function found =>
    rw [Cell.moved, Function.moved, bound, frames, List.map_id]
    rfl
  | page found => rw [Cell.moved, Page.moved, bound]

theorem Cell.moved_moved (first second : Nat → Nat) (cell : Cell) :
    (cell.moved first).moved second = cell.moved (second ∘ first) := by
  cases cell with
  | list items => simp [Cell.moved, Value.moved_moved]
  | dict entries => simp [Cell.moved, Value.movedEntry, Value.moved_moved]
  | bindings bound => simp [Cell.moved, Bindings.moved, Value.moved_moved]
  | function found =>
    simp [Cell.moved, Function.moved, Bindings.moved, Frame.moved, Value.moved_moved]
  | page found => simp [Cell.moved, Page.moved, Bindings.moved, Value.moved_moved]

theorem Cell.moved_injective (move : Nat ↪ Nat) : Function.Injective (Cell.moved move) := by
  intro one other same
  have back : Function.invFun move ∘ move = id := Function.invFun_comp move.injective
  rw [← one.moved_id, ← other.moved_id, ← back, ← Cell.moved_moved, same, Cell.moved_moved]

/-- A store that holds, elsewhere, what another store holds. What comes next has its place there,
too. -/
structure Store.Copies (move : Nat ↪ Nat) (store copy : Store) : Prop where
  cell : ∀ place, copy.cells[move place]? = store.cells[place]?.map (Cell.moved move)
  next : ∀ count, move (store.cells.size + count) = copy.cells.size + count

theorem Store.copies_refl (store : Store) : store.Copies (Function.Embedding.refl Nat) store where
  cell place := by
    have same : Cell.moved (Function.Embedding.refl Nat) = id := funext Cell.moved_id
    rw [same, Option.map_id]
    rfl
  next _ := rfl

namespace Run

variable {move : Nat ↪ Nat} {α β γ δ : Type}

/-- Results that are the same but for places. -/
inductive Same (move : Nat ↪ Nat) (carry : α → β) :
    EStateM.Result Failure Store α → EStateM.Result Failure Store β → Prop where
  | ok {value : α} {store copy : Store} (copies : store.Copies move copy) :
      Same move carry (.ok value store) (.ok (carry value) copy)
  | error {failure : Failure} {store copy : Store} (copies : store.Copies move copy) :
      Same move carry (.error failure store) (.error failure copy)

/-- Code that does elsewhere what other code does. -/
def Mirrors (move : Nat ↪ Nat) (carry : α → β) (run : Run α) (twin : Run β) : Prop :=
  ∀ store copy, store.Copies move copy → Same move carry (run store) (twin copy)

variable {carry : α → β} {after : γ → δ}

theorem mirrors_pure {value : α} {other : β} (same : carry value = other) :
    Mirrors move carry (pure value) (pure other) := by
  cases same
  exact fun _ _ copies => .ok copies

theorem mirrors_fail (failure : Failure) : Mirrors move carry (fail failure) (fail failure) :=
  fun _ _ copies => .error copies

theorem Mirrors.bind {run : Run α} {twin : Run β} {next : α → Run γ} {follow : β → Run δ}
    (here : Mirrors move carry run twin)
    (later : ∀ value, Mirrors move after (next value) (follow (carry value))) :
    Mirrors move after (run >>= next) (twin >>= follow) := by
  intro store copy copies
  have met := here store copy copies
  rw [Outcome.bind_apply, Outcome.bind_apply]
  generalize run store = result at met ⊢
  generalize twin copy = outcome at met ⊢
  cases met with
  | ok copies => exact later _ _ _ copies
  | error copies => exact .error copies

theorem Mirrors.map {run : Run α} {twin : Run β} {change : α → γ} {alter : β → δ}
    (here : Mirrors move carry run twin)
    (same : ∀ value, after (change value) = alter (carry value)) :
    Mirrors move after (change <$> run) (alter <$> twin) := by
  rw [map_eq_pure_bind, map_eq_pure_bind]
  exact here.bind fun value => mirrors_pure (same value)

theorem Mirrors.ite {condition : Prop} [Decidable condition] {run other : Run α}
    {twin alternative : Run β} (yes : condition → Mirrors move carry run twin)
    (no : ¬condition → Mirrors move carry other alternative) :
    Mirrors move carry (if condition then run else other) (if condition then twin else alternative) := by
  split
  next holds => exact yes holds
  next fails => exact no fails

/-- Code that goes on unless it is refused. -/
theorem Mirrors.refusing {condition : Prop} [Decidable condition] {failure : Failure}
    {next : Unit → Run γ} {follow : Unit → Run δ}
    (later : ¬condition → Mirrors move after (next ()) (follow ())) :
    Mirrors move after (if condition then fail failure >>= next else next ())
      (if condition then fail failure >>= follow else follow ()) :=
  .ite (fun _ _ _ copies => .error copies) later

theorem mirrors_mapM {items : List α} {one : α → Run γ} {other : β → Run δ}
    (each : ∀ item ∈ items, Mirrors move after (one item) (other (carry item))) :
    Mirrors move (List.map after) (items.mapM one) ((items.map carry).mapM other) := by
  induction items with
  | nil => exact mirrors_pure rfl
  | cons item rest ih =>
    rw [List.map_cons, List.mapM_cons, List.mapM_cons]
    refine (each item (List.mem_cons_self ..)).bind fun first => ?_
    refine (ih fun other member => each other (List.mem_cons_of_mem _ member)).bind fun others => ?_
    exact mirrors_pure rfl

theorem mirrors_mapM_id {items : List α} {one : α → Run γ} {other : β → Run γ}
    (each : ∀ item, Mirrors move id (one item) (other (carry item))) :
    Mirrors move id (items.mapM one) ((items.map carry).mapM other) := by
  have found := mirrors_mapM fun item (_ : item ∈ items) => each item
  rwa [List.map_id_fun] at found

theorem mirrors_foldlM {items : List α} {start : γ} {one : γ → α → Run γ} {other : δ → β → Run δ}
    (each : ∀ found item, Mirrors move after (one found item) (other (after found) (carry item))) :
    Mirrors move after (items.foldlM one start) ((items.map carry).foldlM other (after start)) := by
  induction items generalizing start with
  | nil => exact mirrors_pure rfl
  | cons item rest ih =>
    rw [List.map_cons, List.foldlM_cons, List.foldlM_cons]
    exact (each start item).bind fun found => ih

theorem mirrors_filterM {items : List α} {one : α → Run Bool} {other : β → Run Bool}
    (each : ∀ item, Mirrors move id (one item) (other (carry item))) :
    Mirrors move (List.map carry) (items.filterM one) ((items.map carry).filterM other) := by
  have loop (found : List α) : Mirrors move (List.map carry) (List.filterAuxM one items found)
      (List.filterAuxM other (items.map carry) (found.map carry)) := by
    induction items generalizing found with
    | nil => exact mirrors_pure rfl
    | cons item rest ih =>
      rw [List.map_cons, List.filterAuxM, List.filterAuxM]
      refine (each item).bind fun kept => ?_
      cases kept
      · exact ih found
      · exact ih (item :: found)
  rw [List.filterM, List.filterM]
  refine (loop []).bind fun kept => mirrors_pure ?_
  simp

theorem mirrors_allM {items : List α} {one : α → Run Bool} {other : β → Run Bool}
    (each : ∀ item, Mirrors move id (one item) (other (carry item))) :
    Mirrors move id (items.allM one) ((items.map carry).allM other) := by
  induction items with
  | nil => exact mirrors_pure rfl
  | cons item rest ih =>
    rw [List.map_cons, List.allM, List.allM]
    refine (each item).bind fun found => ?_
    cases found
    · exact mirrors_pure rfl
    · exact ih

/-! ### Cells -/

theorem mirrors_cell (place : Nat) :
    Mirrors move (Cell.moved move) (cell place) (cell (move place)) := by
  intro store copy copies
  have found := copies.cell place
  simp only [cell, Outcome.bind_apply, get, getThe, MonadStateOf.get, EStateM.get]
  rw [found]
  cases store.cells[place]? with
  | none => exact .error copies
  | some held => exact .ok copies

theorem mirrors_listItems (place : Nat) :
    Mirrors move (List.map (Value.moved move)) (listItems place) (listItems (move place)) := by
  refine (mirrors_cell place).bind fun held => ?_
  cases held with
  | list items => exact mirrors_pure rfl
  | _ => exact mirrors_fail _

theorem mirrors_dictEntries (place : Nat) :
    Mirrors move (List.map (Value.movedEntry move)) (dictEntries place)
      (dictEntries (move place)) := by
  refine (mirrors_cell place).bind fun held => ?_
  cases held with
  | dict entries => exact mirrors_pure rfl
  | _ => exact mirrors_fail _

theorem mirrors_bindings (place : Nat) :
    Mirrors move (Bindings.moved move) (bindings place) (bindings (move place)) := by
  refine (mirrors_cell place).bind fun held => ?_
  cases held with
  | bindings bound => exact mirrors_pure rfl
  | _ => exact mirrors_fail _

theorem mirrors_functionAt (place : Nat) :
    Mirrors move (Function.moved move) (functionAt place) (functionAt (move place)) := by
  refine (mirrors_cell place).bind fun held => ?_
  cases held with
  | function found => exact mirrors_pure rfl
  | _ => exact mirrors_fail _

theorem mirrors_pageAt (place : Nat) :
    Mirrors move (Page.moved move) (pageAt place) (pageAt (move place)) := by
  refine (mirrors_cell place).bind fun held => ?_
  cases held with
  | page found => exact mirrors_pure rfl
  | _ => exact mirrors_fail _

theorem mirrors_allocate (cell : Cell) :
    Mirrors move move (allocate cell) (allocate (cell.moved move)) := by
  intro store copy copies
  have place : move store.cells.size = copy.cells.size := copies.next 0
  rw [allocate_apply, allocate_apply, ← place]
  refine .ok ⟨fun other => ?_, fun count => ?_⟩
  · simp only [Store.push, Array.getElem?_push, ← place, move.injective.eq_iff]
    split
    next => rfl
    next => exact copies.cell other
  · rw [Store.size_push, Store.size_push, Nat.add_assoc, Nat.add_comm 1 count, copies.next]
    omega

theorem mirrors_replace (place : Nat) (cell : Cell) :
    Mirrors move id (replace place cell) (replace (move place) (cell.moved move)) := by
  intro store copy copies
  have size : move place < copy.cells.size ↔ place < store.cells.size := by
    rw [← Array.getElem?_eq_none_iff.not.trans Nat.not_le,
      ← Array.getElem?_eq_none_iff.not.trans Nat.not_le, copies.cell place]
    simp
  rw [replace_apply, replace_apply]
  refine .ok ⟨fun other => ?_, fun count => ?_⟩
  · simp only [Store.put, Array.getElem?_setIfInBounds, move.injective.eq_iff, size]
    split
    next => split <;> rfl
    next => exact copies.cell other
  · rw [Store.size_put, Store.size_put, copies.next]

theorem mirrors_newList (items : List Value) :
    Mirrors move (Value.moved move) (newList items) (newList (items.map (Value.moved move))) :=
  (mirrors_allocate (.list items)).bind fun _ => mirrors_pure rfl

end Run

end Stencil.Script
