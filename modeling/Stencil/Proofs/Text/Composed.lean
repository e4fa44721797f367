import Stencil.Proofs.Text.Unbroken
import Stencil.Text.Composition

/-!
The composed form of visible characters is made of visible characters.
-/

set_option autoImplicit false

namespace Stencil.Text

/-- Whether a code is behind those of the control characters. -/
def IsVisible (code : Nat) : Prop := 0x20 ≤ code

theorem visible_of_run {run : CodeRun} (member : run ∈ decompositions) :
    IsVisible run.first ∧ ∀ value ∈ run.values, IsVisible value := by
  have visible := (List.mem_filter.mp member).2
  simpa [CodeRun.isVisible, IsVisible] using visible

theorem visible_letters (syllable : Syllable) : ∀ code ∈ syllable.letters, IsVisible code := by
  intro code member
  simp only [Syllable.letters, Syllable.firstOrigin, Syllable.vowelOrigin, Syllable.lastOrigin]
    at member
  unfold IsVisible
  split at member
  next =>
    simp only [List.mem_cons, List.not_mem_nil, or_false] at member
    omega
  next =>
    simp only [List.cons_append, List.nil_append, List.mem_cons, List.not_mem_nil, or_false]
      at member
    omega

theorem visible_parts {code : Nat} {parts : List Nat} (found : parts? code = some parts) :
    ∀ part ∈ parts, IsVisible part := by
  unfold parts? at found
  split at found
  next syllable _ =>
    cases found
    exact visible_letters syllable
  next =>
    obtain ⟨run, known, rfl⟩ := Option.map_eq_some_iff.mp found
    intro part member
    obtain ⟨value, inside, rfl⟩ := List.mem_map.mp member
    have visible := (visible_of_run (List.mem_of_find?_eq_some known)).2 value inside
    exact Nat.le_add_right_of_le visible

theorem visible_expand {depth code : Nat} (visible : IsVisible code) :
    ∀ part ∈ expand depth code, IsVisible part := by
  induction depth generalizing code with
  | zero => simpa [expand] using visible
  | succ depth ih =>
    rw [expand]
    cases found : parts? code with
    | none => simpa using visible
    | some parts =>
      intro part member
      obtain ⟨one, inside, deeper⟩ := List.mem_flatMap.mp member
      exact ih (visible_parts found one inside) part deeper

theorem visible_ofPair {left right code : Nat} (found : Syllable.ofPair? left right = some code) :
    IsVisible code := by
  unfold Syllable.ofPair? at found
  unfold IsVisible
  split at found
  next =>
    have whole := Option.some.inj found
    simp only [Syllable.code, Syllable.origin] at whole
    omega
  next =>
    split at found
    next syllable known =>
      have start := Syllable.code_ofCode? known
      simp only [Syllable.code, Syllable.origin] at start
      split at found
      next =>
        have whole := Option.some.inj found
        omega
      next => cases found
    next => cases found

theorem visible_pair {left right code : Nat} (found : pair? left right = some code) :
    IsVisible code := by
  unfold pair? at found
  split at found
  next whole joined => exact Option.some.inj found ▸ visible_ofPair joined
  next =>
    obtain ⟨run, known, rfl⟩ := Option.map_eq_some_iff.mp found
    exact (visible_of_run (List.mem_of_find?_eq_some known)).1

theorem visible_compose {codes : List Nat} (visible : ∀ code ∈ codes, IsVisible code) :
    ∀ {letter : Nat} {apart : List Nat}, IsVisible letter → (∀ code ∈ apart, IsVisible code) →
      ∀ code ∈ compose letter apart codes, IsVisible code := by
  induction codes with
  | nil =>
    intro letter apart first others
    simpa [compose] using ⟨first, others⟩
  | cons next rest ih =>
    obtain ⟨here, later⟩ := List.forall_mem_cons.mp visible
    intro letter apart first others
    simp only [compose]
    split
    next whole joined =>
      refine ih later ?_ others
      split at joined
      next => exact visible_pair joined
      next => cases joined
    next =>
      split
      next =>
        simp only [List.cons_append, List.forall_mem_cons, List.forall_mem_append,
          List.mem_reverse]
        exact ⟨first, others, ih later here (by simp)⟩
      next => exact ih later first (List.forall_mem_cons.mpr ⟨here, others⟩)

theorem visible_composedCodes {codes : List Nat} (visible : ∀ code ∈ codes, IsVisible code) :
    ∀ code ∈ composedCodes codes, IsVisible code := by
  cases codes with
  | nil => simp [composedCodes]
  | cons letter rest =>
    obtain ⟨first, others⟩ := List.forall_mem_cons.mp visible
    exact visible_compose others first (by simp)

theorem ofNat_ne {code : Nat} (visible : IsVisible code) {c : Char} (control : c.toNat < 0x20)
    (other : c ≠ Char.ofNat 0) : Char.ofNat code ≠ c := by
  rintro rfl
  rw [Char.ofNat] at control other
  split at control
  next valid =>
    have number : (Char.ofNatAux code valid).toNat = code := rfl
    unfold IsVisible at visible
    omega
  next invalid =>
    rw [dif_neg invalid] at other
    exact other rfl

theorem unbroken_composed {text : Text} (visible : ∀ c ∈ text, IsVisible c.toNat) :
    Unbroken (composed text) := by
  rw [composed]
  split
  next =>
    intro c member
    have shown := visible c member
    unfold IsVisible at shown
    constructor
    · rintro rfl
      exact absurd shown (by decide)
    · rintro rfl
      exact absurd shown (by decide)
  next =>
    have parts : ∀ code ∈ text.flatMap fun c => expand maximalDepth c.toNat, IsVisible code := by
      intro code member
      obtain ⟨c, inside, found⟩ := List.mem_flatMap.mp member
      exact visible_expand (visible c inside) code found
    intro c member
    obtain ⟨code, inside, rfl⟩ := List.mem_map.mp member
    have visible := visible_composedCodes (fun part known =>
      parts part ((perm_orderAccents _).mem_iff.mp known)) code inside
    exact ⟨ofNat_ne visible (by decide) (by decide), ofNat_ne visible (by decide) (by decide)⟩

end Stencil.Text
