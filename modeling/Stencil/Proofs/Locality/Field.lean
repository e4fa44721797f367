import Mathlib
import Stencil.Script.Grammar.Formatted

/-!
What reads the fields of a formatted string matters only for texts that stand in braces within it.
-/

set_option autoImplicit false

namespace Stencil.Script.Formatted

theorem rest_of_add {front fixed rest : Text} {result : Option (Text × Text)}
    (found : fixedText.add front result = some (fixed, rest)) :
    ∃ inner, result = some (inner, rest) := by
  obtain ⟨⟨inner, after⟩, same, pair⟩ := Option.map_eq_some_iff.mp found
  cases pair
  exact ⟨inner, same⟩

theorem fixedText_length {raw nested : Bool} {fuel : Nat} {text fixed rest : Text}
    (found : fixedText raw nested fuel text = some (fixed, rest)) : rest.length ≤ text.length := by
  fun_induction fixedText raw nested fuel text generalizing fixed rest with
  | case1 => cases found
  | case2 => cases found; exact Nat.le_refl _
  | case3 fuel text raw ih =>
    obtain ⟨inner, same⟩ := rest_of_add found
    exact Nat.le_succ_of_le (ih same)
  | case4 =>
    rename_i ih
    obtain ⟨inner, same⟩ := rest_of_add found
    have bound := ih same
    simp only [List.length_drop, List.length_cons] at bound ⊢
    omega
  | case5 fuel c text _ _ ih =>
    obtain ⟨inner, same⟩ := rest_of_add found
    exact Nat.le_succ_of_le (ih same)
  | case6 fuel c text _ _ ih =>
    obtain ⟨inner, same⟩ := rest_of_add found
    exact Nat.le_succ_of_le (Nat.le_succ_of_le (ih same))
  | case7 => cases found; exact Nat.le_refl _
  | case8 fuel c text _ _ _ _ _ ih =>
    obtain ⟨inner, same⟩ := rest_of_add found
    have bound := ih same
    simp only [List.length_drop, List.length_cons] at bound ⊢
    omega
  | case9 => cases found
  | case10 => cases found; exact Nat.le_refl _
  | case11 fuel c text _ _ _ ih =>
    obtain ⟨inner, same⟩ := rest_of_add found
    exact Nat.le_succ_of_le (ih same)

theorem fieldText_length {fuel : Nat} {state : FieldScan} {text field rest : Text}
    (found : fieldText fuel state text = some (field, rest)) :
    field.length < text.length ∧ rest.length ≤ text.length := by
  induction fuel generalizing state text field rest with
  | zero => cases found
  | succ fuel ih =>
    cases text with
    | nil => cases found
    | cons c text =>
      have taken (count : Nat) (state : FieldScan)
          (found : ((fieldText fuel state (text.drop (count - 1))).map fun found =>
            (c :: text.take (count - 1) ++ found.1, found.2)) = some (field, rest)) :
          field.length < (c :: text).length ∧ rest.length ≤ (c :: text).length := by
        obtain ⟨⟨more, after⟩, same, pair⟩ := Option.map_eq_some_iff.mp found
        cases pair
        have bound := ih same
        simp only [List.length_drop, List.length_append, List.length_cons, List.length_take] at bound ⊢
        omega
      -- A character ends the field, is refused or is taken, alone or with some behind it.
      rw [fieldText] at found
      dsimp only at found
      repeat' split at found
      all_goals first
        | exact taken _ _ found
        | cases found
          done
        | cases found
          exact ⟨Nat.succ_pos _, Nat.le_refl _⟩

variable {read read' : Text → Option Expr} {raw : Bool}

theorem shownText_length (field rest : Text) : (shownText field rest).2.length ≤ rest.length := by
  unfold shownText
  split
  next =>
    simp only [List.length_drop, List.length_cons]
    omega
  next => exact Nat.le_refl _

theorem conversion?_length {rest after : Text} {conversion : Option Char}
    (found : conversion? rest = some (conversion, after)) : after.length ≤ rest.length := by
  unfold conversion? at found
  split at found
  next =>
    split at found
    next =>
      cases found
      simp only [List.length_cons]
      omega
    next => cases found
  next => cases found
  next =>
    cases found
    exact Nat.le_refl _

theorem format?_length {inner : Text → Option (List Part × Text)} {rest after : Text}
    {format : Option Expr}
    (shorter : ∀ text found last, inner text = some (found, last) → last.length ≤ text.length)
    (found : format? inner rest = some (format, after)) : after.length ≤ rest.length := by
  unfold format? at found
  split at found
  next =>
    obtain ⟨⟨parts, last⟩, same, pair⟩ := Option.map_eq_some_iff.mp found
    cases pair
    exact Nat.le_succ_of_le (shorter _ _ _ same)
  next =>
    cases found
    exact Nat.le_refl _

theorem parts_length {fuel level : Nat} {text rest : Text} {found : List Part}
    (parsed : parts read raw fuel level text = some (found, rest)) : rest.length ≤ text.length := by
  induction fuel generalizing level text found rest with
  | zero => cases parsed
  | succ fuel ih =>
    obtain ⟨⟨fixed, behind⟩, first, parsed⟩ := Option.bind_eq_some_iff.mp parsed
    obtain ⟨meant, -, parsed⟩ := Option.bind_eq_some_iff.mp parsed
    have bound := fixedText_length first
    dsimp only at parsed
    split at parsed
    next inside =>
      obtain ⟨_, -, parsed⟩ := Option.bind_eq_some_iff.mp parsed
      obtain ⟨⟨field, behind⟩, scanned, parsed⟩ := Option.bind_eq_some_iff.mp parsed
      have less := (fieldText_length scanned).2
      obtain ⟨_, -, parsed⟩ := Option.bind_eq_some_iff.mp parsed
      obtain ⟨value, -, parsed⟩ := Option.bind_eq_some_iff.mp parsed
      have fewer := shownText_length field behind
      obtain ⟨⟨conversion, later⟩, converted, parsed⟩ := Option.bind_eq_some_iff.mp parsed
      have shorter := conversion?_length converted
      obtain ⟨⟨format, last⟩, formatted, parsed⟩ := Option.bind_eq_some_iff.mp parsed
      have ends := format?_length (fun _ _ _ => ih) formatted
      dsimp only at parsed
      split at parsed
      next after =>
        obtain ⟨⟨others, final⟩, more, same⟩ := Option.bind_eq_some_iff.mp parsed
        cases same
        have least := ih more
        simp only [List.length_cons] at *
        omega
      next => cases parsed
    next =>
      cases parsed
      exact bound

theorem bind_congr {α β : Type} {found : Option α} {next next' : α → Option β}
    (same : ∀ value, found = some value → next value = next' value) :
    found.bind next = found.bind next' := by
  cases found with
  | none => rfl
  | some value => exact same value rfl

theorem parts_congr {fuel level : Nat} {text : Text}
    (same : ∀ field : Text, field.length + 2 ≤ text.length → read field = read' field) :
    parts read raw fuel level text = parts read' raw fuel level text := by
  induction fuel generalizing level text with
  | zero => rfl
  | succ fuel ih =>
    have shorter {level : Nat} {part : Text} (less : part.length ≤ text.length) :
        parts read raw fuel level part = parts read' raw fuel level part :=
      ih fun field bound => same field (Nat.le_trans bound less)
    refine bind_congr fun ⟨fixed, behind⟩ first => bind_congr fun meant _ => ?_
    have bound := fixedText_length first
    dsimp only
    split
    next inside =>
      refine bind_congr fun _ _ => bind_congr fun ⟨field, behind⟩ scanned => bind_congr fun _ _ => ?_
      obtain ⟨less, fewer⟩ := fieldText_length scanned
      simp only [List.length_cons] at bound
      rw [same field (by omega)]
      refine bind_congr fun value _ => ?_
      dsimp only
      have shorter' := shownText_length field behind
      refine bind_congr fun ⟨conversion, later⟩ converted => ?_
      have bound' := conversion?_length converted
      have formats : format? (parts read raw fuel (level + 1)) later =
          format? (parts read' raw fuel (level + 1)) later := by
        unfold format?
        split
        next spec =>
          simp only [List.length_cons] at bound'
          rw [shorter (by omega)]
        next => rfl
      dsimp only
      rw [formats]
      refine bind_congr fun ⟨format, last⟩ formatted => ?_
      have ends := format?_length (fun _ _ _ => parts_length) formatted
      dsimp only
      split
      next after =>
        simp only [List.length_cons] at ends
        rw [shorter (by omega)]
      next => rfl
    next => rfl

theorem parts?_congr {text : Text}
    (same : ∀ field : Text, field.length + 2 ≤ text.length → read field = read' field) :
    parts? read raw text = parts? read' raw text := by
  rw [parts?, parts?, parts_congr same]

end Stencil.Script.Formatted
