import Stencil.Proofs.Script.Spelling

/-!
Text on one line: what it is put together from, and how lines of text are cut apart again.
-/

set_option autoImplicit false

namespace Stencil

namespace Text

/-- Text that no line feed and no carriage return is in. -/
def Unbroken (text : Text) : Prop := ∀ c ∈ text, c ≠ '\n' ∧ c ≠ '\r'

instance (text : Text) : Decidable (Unbroken text) :=
  List.decidableBAll (fun c => c ≠ '\n' ∧ c ≠ '\r') text

@[simp] theorem unbroken_nil : Unbroken [] := by simp [Unbroken]

@[simp] theorem unbroken_cons {c : Char} {text : Text} :
    Unbroken (c :: text) ↔ (c ≠ '\n' ∧ c ≠ '\r') ∧ Unbroken text := by
  simp [Unbroken]

@[simp] theorem unbroken_append {left right : Text} :
    Unbroken (left ++ right) ↔ Unbroken left ∧ Unbroken right := by
  simp only [Unbroken, List.forall_mem_append]

theorem unbroken_flatten {parts : List Text} (each : ∀ part ∈ parts, Unbroken part) :
    Unbroken parts.flatten := by
  intro c member
  obtain ⟨part, inside, found⟩ := List.mem_flatten.mp member
  exact each part inside c found

theorem Unbroken.of_mem {text part : Text} (unbroken : Unbroken text)
    (inside : ∀ c ∈ part, c ∈ text) : Unbroken part :=
  fun c member => unbroken c (inside c member)

theorem Clean.unbroken {text : Text} (clean : Clean text) : Unbroken text :=
  fun c member => ⟨(clean c member).1, (clean c member).2.1⟩

theorem unbroken_spaces (count : Nat) : Unbroken (spaces count) := by
  intro c member
  rw [spaces, List.mem_replicate] at member
  rw [member.2]
  decide

theorem unbroken_decimal (number : Nat) : Unbroken (decimal number) := by
  intro c member
  have digit := Nat.isDigit_of_mem_toDigits (by decide) (by decide) member
  constructor
  · rintro rfl
    exact absurd digit (by decide)
  · rintro rfl
    exact absurd digit (by decide)

theorem unbroken_join {separator : Text} {parts : List Text} (between : Unbroken separator)
    (each : ∀ part ∈ parts, Unbroken part) : Unbroken (join separator parts) := by
  refine unbroken_flatten fun part member => ?_
  induction parts with
  | nil => cases member
  | cons first rest ih =>
    obtain ⟨here, later⟩ := List.forall_mem_cons.mp each
    cases rest with
    | nil => exact each part member
    | cons next others =>
      rw [List.intersperse_cons_cons, List.mem_cons, List.mem_cons] at member
      rcases member with rfl | rfl | behind
      · exact here
      · exact between
      · exact ih later behind

/-- In the inside of a literal every break is spelled out. -/
theorem unbroken_literalBody (text : Text) : Unbroken (Fragment.literalBody text) := by
  intro c member
  obtain ⟨d, _, written⟩ := List.mem_flatMap.mp member
  unfold Fragment.escaped? at written
  split at written
  next => exact (by decide : Unbroken ['\\', '\\']) c written
  next => exact (by decide : Unbroken ['\\', '\'']) c written
  next => exact (by decide : Unbroken ['\\', 'r']) c written
  next => exact (by decide : Unbroken ['\\', 'n']) c written
  next noReturn noFeed =>
    cases List.mem_singleton.mp written
    exact ⟨noFeed, noReturn⟩

theorem unbroken_quoted (text : Text) : Unbroken (quoted text) := by
  have quote : Unbroken [quoteFor text] := by
    rcases isQuote_quoteFor text with same | same <;> rw [same] <;> decide
  have inside : Unbroken (text.flatMap (quotedChar (quoteFor text))) :=
    (clean_flatMap fun c _ => clean_quotedChar _ (isQuote_quoteFor text) c).unbroken
  exact unbroken_append.mpr ⟨unbroken_append.mpr ⟨quote, inside⟩, quote⟩

theorem mem_trimRight {text : Text} {c : Char} (member : c ∈ trimRight text) : c ∈ text := by
  rw [trimRight, dropRightWhile, List.mem_reverse] at member
  exact List.mem_reverse.mp ((List.dropWhile_sublist _).mem member)

/-! ### Cutting -/

theorem splitAt_of_not_mem {separator : Char} {text : Text} (absent : separator ∉ text) :
    splitAt separator text = [text] := by
  induction text with
  | nil => rfl
  | cons c rest ih =>
    obtain ⟨other, later⟩ := List.ne_and_not_mem_of_not_mem_cons absent
    rw [splitAt, ih later]
    exact if_neg other.symm

theorem splitAt_append {separator : Char} {text : Text} (absent : separator ∉ text) (rest : Text) :
    splitAt separator (text ++ separator :: rest) = text :: splitAt separator rest := by
  induction text with
  | nil =>
    rw [List.nil_append, splitAt]
    cases cut : splitAt separator rest with
    | nil => exact absurd cut (splitAt_ne_nil separator rest)
    | cons first others => exact if_pos rfl
  | cons c text ih =>
    obtain ⟨other, later⟩ := List.ne_and_not_mem_of_not_mem_cons absent
    rw [List.cons_append, splitAt, ih later]
    exact if_neg other.symm

/-- Lines that are joined come apart where they were joined. -/
theorem splitAt_join {separator : Char} {parts : List Text} (present : parts ≠ [])
    (absent : ∀ part ∈ parts, separator ∉ part) :
    splitAt separator (join [separator] parts) = parts := by
  induction parts with
  | nil => exact absurd rfl present
  | cons first rest ih =>
    obtain ⟨here, later⟩ := List.forall_mem_cons.mp absent
    cases rest with
    | nil => simpa [join] using splitAt_of_not_mem here
    | cons next others =>
      have joined : join [separator] (first :: next :: others) =
          first ++ separator :: join [separator] (next :: others) := by
        simp [join, List.intercalate_cons_cons]
      rw [joined, splitAt_append here, ih (by simp) later]

end Text

end Stencil
