/-!
Results of steps in a row.
-/

set_option autoImplicit false

namespace Stencil.Outcome

variable {ε α β : Type} {first : Except ε α} {next : α → Except ε β}

theorem bind_eq_ok {result : β} :
    first >>= next = .ok result ↔ ∃ value, first = .ok value ∧ next value = .ok result := by
  cases first with
  | error fault => simp [bind, Except.bind]
  | ok value => simp [bind, Except.bind]

theorem bind_eq_error {fault : ε} :
    first >>= next = .error fault ↔
      first = .error fault ∨ ∃ value, first = .ok value ∧ next value = .error fault := by
  cases first with
  | error other => simp [bind, Except.bind]
  | ok value => simp [bind, Except.bind]

@[simp] theorem ok_bind (value : α) : (Except.ok value : Except ε α) >>= next = next value := rfl

@[simp] theorem error_bind (fault : ε) :
    (Except.error fault : Except ε α) >>= next = .error fault := rfl

theorem map_eq_ok {change : α → β} {result : β} :
    first.map change = .ok result ↔ ∃ value, first = .ok value ∧ change value = result := by
  cases first with
  | error fault => simp [Except.map]
  | ok value => simp [Except.map]

/-- Each of several results is the result for one of the items. -/
theorem mem_mapM {items : List α} {results : List β} (found : items.mapM next = .ok results) :
    ∀ result ∈ results, ∃ item ∈ items, next item = .ok result := by
  induction items generalizing results with
  | nil =>
    cases found
    simp
  | cons item rest ih =>
    rw [List.mapM_cons] at found
    obtain ⟨first, here, found⟩ := bind_eq_ok.mp found
    obtain ⟨others, later, found⟩ := bind_eq_ok.mp found
    cases found
    refine List.forall_mem_cons.mpr ⟨⟨item, List.mem_cons_self .., here⟩, fun result member => ?_⟩
    obtain ⟨other, inside, same⟩ := ih later result member
    exact ⟨other, List.mem_cons_of_mem _ inside, same⟩

theorem ok_of_isSome {ε α : Type} {outcome : Except ε α} (succeeds : outcome.toOption.isSome = true) :
    ∃ value, outcome = .ok value := by
  cases outcome with
  | error fault => cases succeeds
  | ok value => exact ⟨value, rfl⟩

theorem ok_of_map {outcome : Except ε α} {test : α → β} {value : β}
    (found : outcome.toOption.map test = some value) :
    ∃ result, outcome = .ok result ∧ test result = value := by
  cases outcome with
  | error fault => cases found
  | ok result => exact ⟨result, rfl, Option.some.inj found⟩

def fault? (outcome : Except ε α) : Option ε :=
  match outcome with
  | .error fault => some fault
  | .ok _ => none

theorem eq_error_of_fault? {outcome : Except ε α} {fault : ε} (fails : fault? outcome = some fault) :
    outcome = .error fault := by
  cases outcome with
  | error other => exact congrArg Except.error (Option.some.inj fails)
  | ok value => cases fails

/-- Outcomes that are the same in what is looked at both succeed or both fail. -/
theorem alike_of_map {ε δ ζ α β γ : Type} {first : Except ε α} {second : Except δ β}
    {carry : α → γ} {lift : β → γ} {change : ε → ζ} {convert : δ → ζ}
    (same : (first.map carry).mapError change = (second.map lift).mapError convert) :
    (∃ value result, first = .ok value ∧ second = .ok result ∧ carry value = lift result) ∨
      ∃ fault error, first = .error fault ∧ second = .error error ∧ change fault = convert error := by
  cases first with
  | ok value =>
    cases second with
    | ok result => exact .inl ⟨value, result, rfl, rfl, Except.ok.inj same⟩
    | error error => cases same
  | error fault =>
    cases second with
    | ok result => cases same
    | error error => exact .inr ⟨fault, error, rfl, rfl, Except.error.inj same⟩

theorem bind_apply {σ : Type} (first : EStateM ε σ α) (next : α → EStateM ε σ β) (state : σ) :
    (first >>= next) state =
      match first state with
      | .ok value middle => next value middle
      | .error failure middle => .error failure middle := by
  simp only [bind, EStateM.bind]
  cases first state <;> rfl

theorem ran_bind {σ : Type} {first : EStateM ε σ α} {next : α → EStateM ε σ β}
    {state last : σ} {result : β} (ran : (first >>= next) state = .ok result last) :
    ∃ value middle, first state = .ok value middle ∧ next value middle = .ok result last := by
  rw [bind_apply] at ran
  cases done : first state with
  | ok value middle =>
    rw [done] at ran
    exact ⟨value, middle, rfl, ran⟩
  | error failure middle =>
    rw [done] at ran
    cases ran

theorem bind_ok {σ : Type} {first : EStateM ε σ α} {next : α → EStateM ε σ β}
    {state middle : σ} {value : α} (done : first state = .ok value middle) :
    (first >>= next) state = next value middle := by
  rw [bind_apply, done]

theorem pure_apply {σ : Type} (value : α) (state : σ) :
    (pure value : EStateM ε σ α) state = .ok value state := rfl

/-- What steps give from a state on, if they give anything. -/
def value? {σ : Type} (steps : EStateM ε σ α) (state : σ) : Option α :=
  match steps state with
  | .ok value _ => some value
  | .error _ _ => none

theorem value?_congr {σ : Type} {steps other : EStateM ε σ α} {state : σ}
    (same : steps state = other state) : value? steps state = value? other state := by
  rw [value?, value?, same]

theorem ran_of_value? {σ : Type} {steps : EStateM ε σ α} {state : σ} {value : α}
    (found : value? steps state = some value) : ∃ last, steps state = .ok value last := by
  rw [value?] at found
  split at found
  next last ran =>
    cases found
    exact ⟨last, ran⟩
  next => cases found

/-- The state in which steps end, whether they fail or not. -/
def left {σ : Type} (steps : EStateM ε σ α) (state : σ) : σ :=
  match steps state with
  | .ok _ last => last
  | .error _ last => last

/-- Steps that leave what a look at the state shows, whether they fail or not. -/
def Leaves {σ γ : Type} (look : σ → γ) (steps : EStateM ε σ α) : Prop :=
  ∀ state, look (left steps state) = look state

section Leaves

variable {σ γ : Type} {look : σ → γ}

theorem Leaves.of_ok {steps : EStateM ε σ α} (leaves : Leaves look steps) {state last : σ} {value : α}
    (ran : steps state = .ok value last) : look last = look state := by
  have same := leaves state
  rwa [left, ran] at same

theorem Leaves.of_error {steps : EStateM ε σ α} (leaves : Leaves look steps) {state last : σ}
    {failure : ε} (ran : steps state = .error failure last) : look last = look state := by
  have same := leaves state
  rwa [left, ran] at same

theorem leaves_pure (value : α) : Leaves look (pure value : EStateM ε σ α) := fun _ => rfl

theorem leaves_throw (failure : ε) : Leaves look (throw failure : EStateM ε σ α) := fun _ => rfl

theorem leaves_get : Leaves look (get : EStateM ε σ σ) := fun _ => rfl

theorem leaves_modify {change : σ → σ} (same : ∀ state, look (change state) = look state) :
    Leaves look (modify change : EStateM ε σ PUnit) := same

theorem Leaves.bind {steps : EStateM ε σ α} {next : α → EStateM ε σ β} (here : Leaves look steps)
    (later : ∀ value, Leaves look (next value)) : Leaves look (steps >>= next) := by
  intro state
  have first := here state
  rw [left] at first ⊢
  rw [bind_apply]
  cases ran : steps state with
  | ok value middle =>
    simp only [ran] at first
    exact (later value middle).trans first
  | error failure middle => simpa only [ran] using first

theorem leaves_mapM {items : List α} {one : α → EStateM ε σ β} (each : ∀ item, Leaves look (one item)) :
    Leaves look (items.mapM one) := by
  induction items with
  | nil => exact leaves_pure _
  | cons item rest ih =>
    rw [List.mapM_cons]
    exact (each item).bind fun _ => ih.bind fun _ => leaves_pure _

theorem leaves_forM {items : List α} {one : α → EStateM ε σ PUnit}
    (each : ∀ item, Leaves look (one item)) : Leaves look (items.forM one) := by
  induction items with
  | nil => exact leaves_pure _
  | cons item rest ih => exact (each item).bind fun _ => ih

theorem leaves_filterM {items : List α} {test : α → EStateM ε σ Bool}
    (each : ∀ item, Leaves look (test item)) : Leaves look (items.filterM test) := by
  have taken (found : List α) : Leaves look (items.filterAuxM test found) := by
    induction items generalizing found with
    | nil => exact leaves_pure _
    | cons item rest ih => exact (each item).bind fun _ => ih _
  exact (taken []).bind fun _ => leaves_pure _

end Leaves

end Stencil.Outcome
