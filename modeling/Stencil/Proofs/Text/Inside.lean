import Stencil.Token

/-!
What may stand between two quotes: a backslash goes with the character after it, and no other
character is the quote. Both scanners of strings find exactly such texts.
-/

set_option autoImplicit false

namespace Stencil.Text

def isInside (quote : Char) : Text → Bool
  | [] => true
  | '\\' :: [] => false
  | '\\' :: _ :: rest => isInside quote rest
  | c :: rest => c != quote && isInside quote rest

theorem isInside_cons {quote c : Char} {rest : Text} (plain : c ≠ '\\') :
    isInside quote (c :: rest) = (c != quote && isInside quote rest) := by
  rw [isInside]
  · rintro rfl
    exact absurd rfl plain
  · rintro d more rfl
    exact absurd rfl plain

/-- What is inside begins with a pair or with a character that is no backslash. -/
theorem plain_of_alone {c : Char} {rest : Text} (lone : c = '\\' → rest = [] → False)
    (pair : ∀ (d : Char) (more : Text), c = '\\' → rest = d :: more → False) : c ≠ '\\' := by
  rintro rfl
  cases rest with
  | nil => exact lone rfl rfl
  | cons d more => exact pair d more rfl rfl

theorem isInside_append {quote : Char} {left right : Text} (inside : isInside quote left = true) :
    isInside quote (left ++ right) = isInside quote right := by
  fun_induction isInside quote left with
  | case1 => rfl
  | case2 => cases inside
  | case3 c rest ih =>
    simp only [List.cons_append, isInside]
    exact ih inside
  | case4 c rest lone pair ih =>
    simp only [Bool.and_eq_true] at inside
    rw [List.cons_append, isInside_cons (plain_of_alone lone pair), ih inside.2, inside.1,
      Bool.true_and]

/-- Whether a text is a string between two quotes. -/
def Quotes (quote : Char) (text : Text) : Prop :=
  ∃ body, text = quote :: body ++ [quote] ∧ isInside quote body = true

theorem isInside_of_stringEnd? {quote : Char} {text : Text} {stop : Nat}
    (found : Bracket.stringEnd? quote text = some stop) :
    ∃ body rest, text = body ++ quote :: rest ∧ stop = body.length + 1 ∧
      isInside quote body = true := by
  fun_induction Bracket.stringEnd? quote text generalizing stop with
  | case1 => cases found
  | case2 => cases found
  | case3 c rest ih =>
    obtain ⟨inner, same, rfl⟩ := Option.map_eq_some_iff.mp found
    obtain ⟨body, after, rfl, rfl, inside⟩ := ih same
    exact ⟨'\\' :: c :: body, after, rfl, rfl, inside⟩
  | case4 rest =>
    simp only [Option.some.injEq] at found
    exact ⟨[], rest, rfl, by simp [← found], rfl⟩
  | case5 c rest lone pair other ih =>
    obtain ⟨inner, same, rfl⟩ := Option.map_eq_some_iff.mp found
    obtain ⟨body, after, rfl, rfl, inside⟩ := ih same
    refine ⟨c :: body, after, rfl, rfl, ?_⟩
    rw [isInside_cons (plain_of_alone lone pair)]
    simp [other, inside]

end Stencil.Text
