import Mathlib
import Stencil.Proofs.Text.Composed
import Stencil.Script.Grammar.Reader
import Stencil.Script.Lexer

/-!
The words of code: whatever stands for a name in it spells one that is on one line.
-/

set_option autoImplicit false

namespace Stencil.Script

open Reader (nameOf)

theorem visible_wordPart {c : Char} (part : isWordPart c = true) : Text.IsVisible c.toNat := by
  unfold Text.IsVisible
  simp only [isWordPart, Text.isAsciiWord, Char.isAlphanum, Char.isAlpha, Char.isUpper,
    Char.isLower, Char.isDigit, Bool.or_eq_true, Bool.and_eq_true, decide_eq_true_eq, beq_iff_eq]
    at part
  rcases part with ((((⟨low, _⟩ | ⟨low, _⟩) | ⟨low, _⟩) | rfl)) | high
  · exact Nat.le_trans (by decide) low
  · exact Nat.le_trans (by decide) low
  · exact Nat.le_trans (by decide) low
  · decide
  · omega

/-- Words whose names are on one line. -/
def Tidy (tokens : List Token) : Prop :=
  ∀ letters, Token.name letters ∈ tokens → (nameOf letters).Unbroken

theorem tidy_nil : Tidy [] := by simp [Tidy]

theorem Tidy.of_mem {tokens part : List Token} (tidy : Tidy tokens)
    (inside : ∀ token ∈ part, token ∈ tokens) : Tidy part :=
  fun letters member => tidy letters (inside _ member)

theorem tidy_cons {token : Token} {rest : List Token} :
    Tidy (token :: rest) ↔
      (∀ letters, token = .name letters → (nameOf letters).Unbroken) ∧ Tidy rest := by
  constructor
  · intro tidy
    exact ⟨fun letters same => tidy letters (same ▸ List.mem_cons_self ..),
      tidy.of_mem fun _ => List.mem_cons_of_mem _⟩
  · rintro ⟨first, others⟩ letters member
    rcases List.mem_cons.mp member with same | later
    · exact first letters same.symm
    · exact others letters later

theorem tidy_append {left right : List Token} (first : Tidy left) (second : Tidy right) :
    Tidy (left ++ right) := by
  intro letters member
  rcases List.mem_append.mp member with before | behind
  · exact first letters before
  · exact second letters behind

theorem tidy_of_nameless {tokens : List Token} (nameless : ∀ letters, Token.name letters ∉ tokens) :
    Tidy tokens :=
  fun letters member => absurd member (nameless letters)

namespace Lexer

theorem unbroken_word {text : Text} {letters : Text} {length : Nat}
    (found : word? text = some (.name letters, length)) : (nameOf letters).Unbroken := by
  have visible : ∀ c ∈ text.takeWhile isWordPart, Text.IsVisible c.toNat := fun c member =>
    visible_wordPart (List.all_eq_true.mp List.all_takeWhile c member)
  unfold word? at found
  simp only at found
  split at found
  next =>
    obtain ⟨quoted, _, same⟩ := Option.map_eq_some_iff.mp found
    cases same
  next =>
    split at found
    next => cases found
    next =>
      split at found
      next =>
        cases found
        exact Text.unbroken_composed visible
      next => cases found

theorem unbroken_next {closers after : List Symbol} {text letters : Text} {length : Nat}
    (found : next? closers text = some (.name letters, length, after)) :
    (nameOf letters).Unbroken := by
  unfold next? at found
  split at found
  next =>
    obtain ⟨number, _, same⟩ := Option.map_eq_some_iff.mp found
    cases same
  next =>
    split at found
    next =>
      obtain ⟨⟨token, count⟩, read, same⟩ := Option.map_eq_some_iff.mp found
      cases same
      exact unbroken_word read
    next =>
      obtain ⟨symbol, _, found⟩ := Option.bind_eq_some_iff.mp found
      obtain ⟨opened, _, same⟩ := Option.bind_eq_some_iff.mp found
      cases same

theorem tidy_adjust {state after : State} {width : Width} {words : List Token}
    (found : adjust state width = some (words, after)) : Tidy words := by
  refine tidy_of_nameless fun letters member => ?_
  unfold adjust at found
  simp only at found
  split at found
  next =>
    split at found
    next =>
      cases found
      cases member
    next => cases found
  next =>
    split at found
    next =>
      split at found
      next => cases found
      next =>
        cases found
        cases List.mem_singleton.mp member
    next =>
      split at found
      next =>
        cases found
        cases (List.mem_replicate.mp member).2
      next => cases found

theorem tidy_scan {fuel : Nat} {state : State} {place : Place} {text : Text} {tokens : List Token}
    (found : scan fuel state place text = some tokens) : Tidy tokens := by
  induction fuel generalizing state place text tokens with
  | zero => simp [scan] at found
  | succ fuel ih =>
    cases place with
    | lineStart =>
      rw [scan] at found
      obtain ⟨start, _, found⟩ := Option.bind_eq_some_iff.mp found
      simp only at found
      split at found
      next => exact ih found
      next =>
        obtain ⟨⟨words, after⟩, moved, found⟩ := Option.bind_eq_some_iff.mp found
        obtain ⟨others, read, same⟩ := Option.bind_eq_some_iff.mp found
        cases same
        exact tidy_append (tidy_adjust moved) (ih read)
    | inLine blank =>
      rw [scan.eq_def] at found
      simp only at found
      split at found
      next =>
        split at found
        next =>
          cases found
          exact tidy_nil
        next => cases found
      next =>
        split at found
        next => exact ih found
        next =>
          obtain ⟨others, read, rfl⟩ := Option.map_eq_some_iff.mp found
          exact tidy_cons.mpr ⟨by simp, ih read⟩
      next =>
        split at found
        next =>
          split at found
          next => cases found
          next => exact ih found
        next => cases found
      next => exact ih found
      next =>
        split at found
        next => exact ih found
        next =>
          obtain ⟨⟨token, length, closers⟩, read, found⟩ := Option.bind_eq_some_iff.mp found
          obtain ⟨others, later, same⟩ := Option.bind_eq_some_iff.mp found
          cases same
          refine tidy_cons.mpr ⟨fun letters same => ?_, ih later⟩
          cases (same : token = .name letters)
          exact unbroken_next read

theorem tidy_statementTokens {source : Text} {tokens : List Token}
    (found : statementTokens source = some tokens) : Tidy tokens := tidy_scan found

end Lexer

end Stencil.Script
