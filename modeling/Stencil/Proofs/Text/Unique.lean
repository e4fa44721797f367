import Stencil.Text.Basic

/-!
The members of a list in order: they are those of the list, each once, the lesser ones first.
-/

set_option autoImplicit false

namespace Stencil.Text

theorem mem_eraseRepsLoop {first text : Text} {rest found : List Text} :
    text ∈ List.eraseRepsBy.loop (· == ·) first rest found ↔
      text = first ∨ text ∈ rest ∨ text ∈ found := by
  induction rest generalizing first found with
  | nil => simp [List.eraseRepsBy.loop, or_comm]
  | cons next rest ih =>
    rw [List.eraseRepsBy.loop]
    cases same : first == next with
    | true =>
      have repeated : first = next := by simpa using same
      simp only [ih, List.mem_cons, repeated]
      constructor
      · rintro (equal | later | earlier)
        · exact .inl equal
        · exact .inr (.inl (.inr later))
        · exact .inr (.inr earlier)
      · rintro (equal | (equal | later) | earlier)
        · exact .inl equal
        · exact .inl equal
        · exact .inr (.inl later)
        · exact .inr (.inr earlier)
    | false =>
      simp only [ih, List.mem_cons]
      constructor
      · rintro (equal | later | equal | earlier)
        · exact .inr (.inl (.inl equal))
        · exact .inr (.inl (.inr later))
        · exact .inl equal
        · exact .inr (.inr earlier)
      · rintro (equal | (equal | later) | earlier)
        · exact .inr (.inr (.inl equal))
        · exact .inl equal
        · exact .inr (.inl later)
        · exact .inr (.inr (.inr earlier))

theorem mem_sortUnique {text : Text} {texts : List Text} :
    text ∈ sortUnique texts ↔ text ∈ texts := by
  have sorted : text ∈ texts.mergeSort precedes ↔ text ∈ texts := List.mem_mergeSort
  rw [sortUnique, List.eraseReps, ← sorted]
  cases texts.mergeSort precedes with
  | nil => simp [List.eraseRepsBy]
  | cons first rest => simp [List.eraseRepsBy, mem_eraseRepsLoop]

/-! ### Order -/

theorem precedes_iff {left right : Text} :
    precedes left right = true ↔ left = right ∨ left.Lex (· < ·) right := by
  induction left generalizing right with
  | nil => cases right <;> simp [precedes]
  | cons a left ih =>
    cases right with
    | nil => simp [precedes]
    | cons b right =>
      simp only [precedes, Bool.or_eq_true, Bool.and_eq_true, decide_eq_true_eq, beq_iff_eq, ih,
        List.cons.injEq, List.cons_lex_cons_iff]
      grind

theorem precedes_trans (first second third : Text) (below : precedes first second = true)
    (above : precedes second third = true) : precedes first third = true := by
  rw [precedes_iff] at below above ⊢
  rcases below with rfl | below
  · exact above
  · rcases above with rfl | above
    · exact .inr below
    · exact .inr (List.lt_trans below above)

theorem precedes_total (first second : Text) :
    (precedes first second || precedes second first) = true := by
  simp only [Bool.or_eq_true, precedes_iff]
  by_cases below : first.Lex (· < ·) second
  · exact .inl (.inr below)
  by_cases above : second.Lex (· < ·) first
  · exact .inr (.inr above)
  · exact .inl (.inl (List.le_antisymm above below))

theorem pairwise_mergeSort (texts : List Text) :
    (texts.mergeSort precedes).Pairwise fun one next => one = next ∨ one.Lex (· < ·) next := by
  have sorted : (texts.mergeSort precedes).Pairwise fun one next => precedes one next = true :=
    List.pairwise_mergeSort precedes_trans precedes_total texts
  exact sorted.imp fun below => precedes_iff.mp below

/-- Where nothing is out of order, what is found is in order and each text is there once. -/
theorem pairwise_eraseRepsLoop {first : Text} {rest found : List Text}
    (sorted : (first :: rest).Pairwise fun one next => one = next ∨ one.Lex (· < ·) next)
    (ordered : (first :: found).Pairwise fun one next => next.Lex (· < ·) one) :
    (List.eraseRepsBy.loop (· == ·) first rest found).Pairwise
      fun one next => one.Lex (· < ·) next := by
  induction rest generalizing first found with
  | nil => exact List.pairwise_reverse.mpr ordered
  | cons next rest ih =>
    obtain ⟨least, later⟩ := List.pairwise_cons.mp sorted
    obtain ⟨greater, _⟩ := List.pairwise_cons.mp ordered
    rw [List.eraseRepsBy.loop]
    cases same : first == next with
    | true =>
      have repeated : first = next := by simpa using same
      exact ih (repeated ▸ later) ordered
    | false =>
      have other : first ≠ next := by simpa using same
      have less := (least next (List.mem_cons_self ..)).resolve_left other
      refine ih later (List.pairwise_cons.mpr ⟨fun earlier member => ?_, ordered⟩)
      rcases List.mem_cons.mp member with rfl | member
      · exact less
      · exact List.lt_trans (greater earlier member) less

/-- In dictionary order, going by the numbers of the characters. -/
theorem pairwise_sortUnique (texts : List Text) :
    (sortUnique texts).Pairwise fun one next => one.Lex (· < ·) next := by
  have sorted := pairwise_mergeSort texts
  rw [sortUnique, List.eraseReps]
  cases same : texts.mergeSort precedes with
  | nil => exact .nil
  | cons first rest =>
    rw [same] at sorted
    exact pairwise_eraseRepsLoop sorted (List.pairwise_singleton ..)

/-- Only what is in a list counts. -/
theorem sortUnique_congr {texts others : List Text}
    (same : ∀ text, text ∈ texts ↔ text ∈ others) : sortUnique texts = sortUnique others := by
  have distinct (texts : List Text) : (sortUnique texts).Nodup :=
    (pairwise_sortUnique texts).imp fun less equal => by
      subst equal
      exact List.lt_irrefl _ less
  have perm : (sortUnique texts).Perm (sortUnique others) := by
    rw [List.perm_ext_iff_of_nodup (distinct texts) (distinct others)]
    intro text
    rw [mem_sortUnique, mem_sortUnique, same]
  exact perm.eq_of_pairwise (fun one next _ _ less greater => (List.lt_asymm less greater).elim)
    (pairwise_sortUnique texts) (pairwise_sortUnique others)

end Stencil.Text
