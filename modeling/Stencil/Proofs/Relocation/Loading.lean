import Stencil.Proofs.Relocation.Rendering

/-!
What loading a configuration makes refers to nothing else. So it is found again in every store that
keeps it, however much has come after it.
-/

set_option autoImplicit false

namespace Stencil

namespace Script

/-- A value that refers to nothing from a place on: it only matters where the places before go. -/
def Value.Below (size : Nat) (value : Value) : Prop :=
  ∀ one other : Nat → Nat, (∀ place < size, one place = other place) →
    value.moved one = value.moved other

def Cell.Below (size : Nat) (cell : Cell) : Prop :=
  ∀ one other : Nat → Nat, (∀ place < size, one place = other place) →
    cell.moved one = cell.moved other

/-- A store in which nothing refers to what is not there. -/
def Store.Closed (store : Store) : Prop :=
  ∀ place cell, store.Holds place cell → cell.Below store.cells.size

variable {store : Store} {size more : Nat}

theorem Value.Below.mono {value : Value} (below : value.Below size) (within : size ≤ more) :
    value.Below more :=
  fun one other same => below one other fun place inside =>
    same place (Nat.lt_of_lt_of_le inside within)

theorem Value.below_list {place : Nat} (inside : place < size) : (Value.list place).Below size :=
  fun _ _ same => congrArg Value.list (same place inside)

theorem Value.below_dict {place : Nat} (inside : place < size) : (Value.dict place).Below size :=
  fun _ _ same => congrArg Value.dict (same place inside)

theorem closed_empty : Store.empty.Closed := fun _ _ held => absurd held.lt (Nat.not_lt_zero _)

theorem Store.Closed.push {cell : Cell} (closed : store.Closed)
    (below : cell.Below store.cells.size) : (store.push cell).Closed := by
  intro place held found one other same
  rw [size_push] at same
  have inner : ∀ place < store.cells.size, one place = other place :=
    fun place inside => same place (Nat.lt_succ_of_lt inside)
  by_cases last : place = store.cells.size
  next =>
    have whole : held = cell := Option.some.inj (by
      rw [← found, last]
      exact (store.holds_push cell).symm ▸ rfl)
    rw [whole]
    exact below one other inner
  next =>
    have before : store.Holds place held := by
      simpa only [Holds, Store.push, Array.getElem?_push, if_neg last] using found
    exact closed place held before one other inner

theorem Store.Closed.allocate {cell : Cell} {place : Nat} {later : Store}
    (made : Run.allocate cell store = .ok place later) (closed : store.Closed)
    (below : cell.Below store.cells.size) :
    later.Closed ∧ place < later.cells.size ∧ store.cells.size ≤ later.cells.size := by
  rw [Run.allocate_apply] at made
  cases made
  rw [Store.size_push]
  exact ⟨closed.push below, Nat.lt_succ_self _, Nat.le_succ _⟩

theorem Value.below_tuple {items : List Value} (below : ∀ item ∈ items, item.Below size) :
    (Value.tuple items).Below size := by
  intro one other same
  rw [Value.moved, Value.moved, movedAll_eq, movedAll_eq]
  exact congrArg Value.tuple (List.map_congr_left fun item member => below item member one other same)

theorem Cell.below_list {items : List Value} (below : ∀ item ∈ items, item.Below size) :
    (Cell.list items).Below size :=
  fun one other same => congrArg Cell.list
    (List.map_congr_left fun item member => below item member one other same)

theorem Cell.below_dict {entries : List (Value × Value)}
    (below : ∀ entry ∈ entries, entry.1.Below size ∧ entry.2.Below size) :
    (Cell.dict entries).Below size :=
  fun one other same => congrArg Cell.dict (List.map_congr_left fun entry member =>
    congrArg₂ Prod.mk ((below entry member).1 one other same) ((below entry member).2 one other same))

mutual

theorem ofDatum_closed {store later : Store} {datum : Datum} {value : Value}
    (made : Value.ofDatum datum store = .ok value later) (closed : store.Closed) :
    later.Closed ∧ value.Below later.cells.size ∧ store.cells.size ≤ later.cells.size := by
  cases datum with
  | list items =>
    obtain ⟨values, middle, inner, rest⟩ := Outcome.ran_bind made
    obtain ⟨kept, below, grown⟩ := valuesOf_closed inner closed
    obtain ⟨place, last, new, done⟩ := Outcome.ran_bind rest
    obtain ⟨stayed, inside, more⟩ := kept.allocate new (Cell.below_list below)
    cases done
    exact ⟨stayed, Value.below_list inside, Nat.le_trans grown more⟩
  | tuple items =>
    obtain ⟨values, middle, inner, rest⟩ := Outcome.ran_bind made
    obtain ⟨kept, below, grown⟩ := valuesOf_closed inner closed
    cases rest
    exact ⟨kept, Value.below_tuple below, grown⟩
  | dict entries =>
    obtain ⟨values, middle, inner, rest⟩ := Outcome.ran_bind made
    obtain ⟨kept, below, grown⟩ := entriesOf_closed inner closed
    obtain ⟨place, last, new, done⟩ := Outcome.ran_bind rest
    obtain ⟨stayed, inside, more⟩ := kept.allocate new (Cell.below_dict below)
    cases done
    exact ⟨stayed, Value.below_dict inside, Nat.le_trans grown more⟩
  | _ =>
    cases made
    exact ⟨closed, fun _ _ _ => rfl, Nat.le_refl _⟩

theorem valuesOf_closed {store later : Store} {data : List Datum} {values : List Value}
    (made : valuesOf data store = .ok values later) (closed : store.Closed) :
    later.Closed ∧ (∀ value ∈ values, value.Below later.cells.size) ∧
      store.cells.size ≤ later.cells.size := by
  cases data with
  | nil =>
    cases made
    exact ⟨closed, fun _ absent => absurd absent List.not_mem_nil, Nat.le_refl _⟩
  | cons datum rest =>
    obtain ⟨first, middle, here, made⟩ := Outcome.ran_bind made
    obtain ⟨others, last, there, done⟩ := Outcome.ran_bind made
    obtain ⟨kept, below, grown⟩ := ofDatum_closed here closed
    obtain ⟨stayed, beneath, more⟩ := valuesOf_closed there kept
    cases done
    refine ⟨stayed, ?_, Nat.le_trans grown more⟩
    rw [List.forall_mem_cons]
    exact ⟨below.mono more, beneath⟩

theorem entriesOf_closed {store later : Store} {data : List (Datum × Datum)}
    {entries : List (Value × Value)}
    (made : entriesOf data store = .ok entries later) (closed : store.Closed) :
    later.Closed ∧ (∀ entry ∈ entries, entry.1.Below later.cells.size ∧
      entry.2.Below later.cells.size) ∧ store.cells.size ≤ later.cells.size := by
  cases data with
  | nil =>
    cases made
    exact ⟨closed, fun _ absent => absurd absent List.not_mem_nil, Nat.le_refl _⟩
  | cons datum rest =>
    obtain ⟨one, other⟩ := datum
    obtain ⟨key, middle, here, made⟩ := Outcome.ran_bind made
    obtain ⟨value, next, there, made⟩ := Outcome.ran_bind made
    obtain ⟨others, last, behind, done⟩ := Outcome.ran_bind made
    obtain ⟨kept, low, grown⟩ := ofDatum_closed here closed
    obtain ⟨stayed, below, more⟩ := ofDatum_closed there kept
    obtain ⟨left, beneath, most⟩ := entriesOf_closed behind stayed
    cases done
    refine ⟨left, ?_, Nat.le_trans grown (Nat.le_trans more most)⟩
    rw [List.forall_mem_cons]
    exact ⟨⟨low.mono (Nat.le_trans more most), below.mono most⟩, beneath⟩

end

/-- Whether what one store has is, elsewhere, in another one. -/
def Store.Carries (store : Store) (move : Nat ↪ Nat) (other : Store) : Prop :=
  ∀ place cell, store.Holds place cell → other.Holds (move place) (cell.moved move)

section Carries

variable {move other : Nat ↪ Nat} {copy later : Store}

theorem Store.Copies.carries (copies : store.Copies move copy) : store.Carries move copy := by
  intro place cell held
  rw [Store.Holds] at held
  rw [Store.Holds, copies.cell, held, Option.map_some]

theorem Store.Carries.kept (carries : store.Carries move copy) (keeps : copy.Keeps later) :
    store.Carries move later :=
  fun place cell held => keeps _ _ (carries place cell held)

theorem Store.Closed.carries_congr (closed : store.Closed) (carries : store.Carries move copy)
    (same : ∀ place < store.cells.size, move place = other place) : store.Carries other copy := by
  intro place cell held
  rw [← same place held.lt, ← closed place cell held move other same]
  exact carries place cell held

/-- A closed store that is carried has a copy. -/
theorem Store.Closed.copies (closed : store.Closed) (carries : store.Carries move copy) :
    ∃ other : Nat ↪ Nat, store.Copies other copy ∧
      ∀ place < store.cells.size, other place = move place := by
  have found (place : Nat) (inside : place < store.cells.size) :
      store.Holds place store.cells[place] := Array.getElem?_eq_getElem inside
  have within (place : Nat) (inside : place < store.cells.size) : move place < copy.cells.size :=
    (carries _ _ (found place inside)).lt
  let other : Nat ↪ Nat :=
    { toFun := fun place =>
        if place < store.cells.size then move place
        else place - store.cells.size + copy.cells.size
      inj' := by
        intro one two same
        dsimp only at same
        split at same <;> split at same
        next => exact move.injective same
        next inside _ =>
          have := within one inside
          omega
        next _ inside =>
          have := within two inside
          omega
        next => omega }
  have before : ∀ place < store.cells.size, other place = move place :=
    fun place inside => if_pos inside
  have beyond (place : Nat) (outside : ¬place < store.cells.size) :
      other place = place - store.cells.size + copy.cells.size := if_neg outside
  refine ⟨other, ⟨fun place => ?_, fun count => ?_⟩, before⟩
  · by_cases inside : place < store.cells.size
    next =>
      have held := closed.carries_congr carries (fun place inside => (before place inside).symm)
        place _ (found place inside)
      rw [held, found place inside, Option.map_some]
    next =>
      rw [beyond place inside, Array.getElem?_eq_none (by omega), Array.getElem?_eq_none (by omega)]
      rfl
  · rw [beyond _ (by omega)]
    omega

/-- What a copy still carries, the store that is copied still has. -/
theorem Store.Carries.keeps (carries : store.Carries move copy) (copies : later.Copies move copy) :
    store.Keeps later := by
  intro place cell held
  have found := carries place cell held
  rw [Store.Holds, copies.cell, Option.map_eq_some_iff] at found
  obtain ⟨here, there, same⟩ := found
  rw [Store.Holds, there, Cell.moved_injective move same]

theorem Store.Keeps.carries (keeps : store.Keeps later) (copies : later.Copies move copy) :
    store.Carries move copy :=
  fun place cell held => copies.carries place cell (keeps place cell held)

end Carries

/-- Nothing is copied by every store. -/
theorem copies_empty (store : Store) :
    ∃ move : Nat ↪ Nat, Store.empty.Copies move store := by
  refine ⟨⟨(store.cells.size + ·), fun _ _ same => Nat.add_left_cancel same⟩, fun place => ?_,
    fun count => ?_⟩
  · exact Array.getElem?_eq_none (Nat.le_add_right _ _)
  · exact congrArg _ (Nat.zero_add count)

end Script

/-! ### Jobs -/

namespace Job

open Script

/-- A job whose values refer to nothing from a place on. -/
def Below (size : Nat) (job : Job) : Prop :=
  ∀ one other : Nat → Nat, (∀ place < size, one place = other place) →
    job.moved one = job.moved other

def ValuesBelow (size : Nat) (values : Datum.Keyed Value) : Prop :=
  ∀ entry ∈ values, entry.2.Below size

theorem ValuesBelow.mapValues {size : Nat} {values : Datum.Keyed Value} {one other : Nat → Nat}
    (below : ValuesBelow size values) (same : ∀ place < size, one place = other place) :
    values.mapValues (Value.moved one) = values.mapValues (Value.moved other) :=
  List.map_congr_left fun entry member =>
    congrArg (Prod.mk entry.1) (below entry member one other same)

theorem Below.mono {size more : Nat} {job : Job} (below : job.Below size) (within : size ≤ more) :
    job.Below more :=
  fun one other same => below one other fun place inside =>
    same place (Nat.lt_of_lt_of_le inside within)

theorem ValuesBelow.mono {size more : Nat} {values : Datum.Keyed Value}
    (below : ValuesBelow size values) (within : size ≤ more) : ValuesBelow more values :=
  fun entry member => (below entry member).mono within

theorem ValuesBelow.job {size : Nat} {shared own : Datum.Keyed Value} (first : ValuesBelow size shared)
    (second : ValuesBelow size own) (source target : Path) :
    Below size ⟨source, target, shared.update own⟩ := by
  intro one other same
  rw [Job.moved, Job.moved, Datum.Keyed.mapValues_update, Datum.Keyed.mapValues_update,
    first.mapValues same, second.mapValues same]

/-- What is made in a row is closed if each step leaves it so. -/
theorem mapM_closed {α β : Type} (below : Nat → β → Prop) {one : α → Work β} {size : Nat}
    (mono : ∀ {size more value}, below size value → size ≤ more → below more value)
    (each : ∀ {item value workspace later}, one item workspace = .ok value later →
      workspace.store.Closed → size ≤ workspace.store.cells.size →
        later.store.Closed ∧ below later.store.cells.size value ∧
          workspace.store.cells.size ≤ later.store.cells.size)
    {items : List α} {values : List β} {workspace later : Workspace}
    (made : items.mapM one workspace = .ok values later) (closed : workspace.store.Closed)
    (started : size ≤ workspace.store.cells.size) :
    later.store.Closed ∧ (∀ value ∈ values, below later.store.cells.size value) ∧
      workspace.store.cells.size ≤ later.store.cells.size := by
  induction items generalizing values workspace later with
  | nil =>
    cases made
    exact ⟨closed, fun _ absent => absurd absent List.not_mem_nil, Nat.le_refl _⟩
  | cons item rest ih =>
    rw [List.mapM_cons] at made
    obtain ⟨value, middle, here, made⟩ := Outcome.ran_bind made
    obtain ⟨others, last, there, done⟩ := Outcome.ran_bind made
    cases done
    obtain ⟨kept, low, grown⟩ := each here closed started
    obtain ⟨stays, beneath, more⟩ := ih there kept (Nat.le_trans started grown)
    refine ⟨stays, ?_, Nat.le_trans grown more⟩
    rw [List.forall_mem_cons]
    exact ⟨mono low more, beneath⟩

theorem script_eq_ok {α : Type} {run : Run α} {value : α} {workspace done : Workspace} :
    Work.script run workspace = .ok value done ↔
      ∃ store, run workspace.store = .ok value store ∧ done = { workspace with store := store } := by
  rw [Work.script]
  cases run workspace.store <;> simp [eq_comm]

theorem makeValues_closed {entries : Datum.Entries} {values : Datum.Keyed Value}
    {workspace later : Workspace} (made : makeValues entries workspace = .ok values later)
    (closed : workspace.store.Closed) :
    later.store.Closed ∧ ValuesBelow later.store.cells.size values ∧
      workspace.store.cells.size ≤ later.store.cells.size := by
  refine mapM_closed (fun size entry => entry.2.Below size) Value.Below.mono
    (fun made closed _ => ?_) made closed (Nat.zero_le _)
  obtain ⟨value, _, kept, same⟩ := Outcome.ran_bind made
  obtain ⟨store, datum, rfl⟩ := script_eq_ok.mp kept
  cases same
  exact ofDatum_closed datum closed

theorem ofConfig_closed {config : Config} {jobs : List Job} {workspace later : Workspace}
    (made : ofConfig config workspace = .ok jobs later) (closed : workspace.store.Closed) :
    later.store.Closed ∧ ∀ job ∈ jobs, job.Below later.store.cells.size := by
  obtain ⟨shared, middle, first, rest⟩ := Outcome.ran_bind made
  obtain ⟨kept, beneath, -⟩ := makeValues_closed first closed
  obtain ⟨last, below, -⟩ := mapM_closed Below Below.mono
    (fun made closed started => by
      obtain ⟨own, _, values, same⟩ := Outcome.ran_bind made
      cases same
      obtain ⟨stays, low, grown⟩ := makeValues_closed values closed
      exact ⟨stays, (beneath.mono (Nat.le_trans started grown)).job low _ _, grown⟩)
    rest kept (Nat.le_refl _)
  exact ⟨last, below⟩

/-- What is loaded anywhere is, elsewhere, what is loaded where there is nothing yet. -/
theorem ofConfig_carries {config : Config} {jobs : List Job} {first workspace later : Workspace}
    (made : ofConfig config workspace = .ok jobs later) (nothing : first.store = .empty) :
    ∃ plain done, ∃ move : Nat ↪ Nat, ofConfig config first = .ok plain done ∧
      done.tree = first.tree ∧ done.store.Closed ∧
        (∀ job ∈ plain, job.Below done.store.cells.size) ∧
          done.store.Carries move later.store ∧ plain.map (Job.moved move) = jobs := by
  obtain ⟨move, copies⟩ := copies_empty workspace.store
  have met := @mirrors_ofConfig move config first workspace (nothing ▸ copies)
  rw [made] at met
  obtain ⟨plain, done, loaded, same, copied, kept, -⟩ := met.of_ok
  obtain ⟨closed, below⟩ := ofConfig_closed loaded (nothing ▸ closed_empty)
  exact ⟨plain, done, move, loaded, kept, closed, below, copied.carries, same⟩

end Job

end Stencil
