import Stencil.Proofs.Script.Words

/-!
Scanning step by step, as far as the beginning of a text is known.
-/

set_option autoImplicit false

namespace Stencil.Script.Lexer

theorem words_feed (state : State) (blank : Bool) (rest : Text) :
    words state (.inLine blank) ('\n' :: rest) =
      if blank || !state.closers.isEmpty then words state .lineStart rest
      else (words state .lineStart rest).map (Token.newline :: ·) := by
  rw [words_eq]
  rfl

theorem words_inLine {c : Char} (noFeed : c ≠ '\n') (noSlash : c ≠ '\\') (noHash : c ≠ '#')
    (state : State) (blank : Bool) (rest : Text) :
    words state (.inLine blank) (c :: rest) =
      if isGap c then words state (.inLine blank) rest
      else do
        let (token, length, closers) ← next? state.closers (c :: rest)
        let others ← words { state with closers := closers } (.inLine false)
          (rest.drop (length - 1))
        return token :: others := by
  rw [words_eq]
  simp [advance]

structure Spot where
  state : State
  place : Place
  text : Text

namespace Spot

def words (spot : Spot) : Option (List Token) := Lexer.words spot.state spot.place spot.text

-- Comments and joined lines have no step of their own, nor has the end of the text.
def step (spot : Spot) : Option (List Token × Spot) :=
  let state := spot.state
  match spot.place with
  | .lineStart => do
    let start ← indentation .zero none spot.text
    let blank := start.rest.head?.any fun c => c == '#' || c == '\n'
    if blank || !state.closers.isEmpty then some ([], ⟨state, .inLine blank, start.rest⟩)
    else do
      let (words, state) ← adjust state start.width
      return (words, ⟨state, .inLine false, start.rest⟩)
  | .inLine blank =>
    match spot.text with
    | [] => none
    | '\n' :: rest =>
      if blank || !state.closers.isEmpty then some ([], ⟨state, .lineStart, rest⟩)
      else some ([.newline], ⟨state, .lineStart, rest⟩)
    | '\\' :: _ => none
    | '#' :: _ => none
    | c :: rest =>
      if isGap c then some ([], ⟨state, .inLine blank, rest⟩)
      else do
        let (token, length, closers) ← next? state.closers (c :: rest)
        return ([token], ⟨{ state with closers := closers }, .inLine false, rest.drop (length - 1)⟩)

def steps : Nat → Spot → Option (List Token × Spot)
  | 0, spot => some ([], spot)
  | count + 1, spot => do
    let (first, next) ← spot.step
    let (others, last) ← next.steps count
    return (first ++ others, last)

theorem map_nil_append (found : Option (List Token)) : found.map ([] ++ ·) = found := by
  cases found <;> rfl

theorem words_of_step {spot next : Spot} {found : List Token}
    (stepped : spot.step = some (found, next)) : spot.words = next.words.map (found ++ ·) := by
  obtain ⟨state, place, text⟩ := spot
  rw [words]
  cases place with
  | lineStart =>
    rw [words_eq]
    simp only [step, advance] at stepped ⊢
    cases begun : indentation .zero none text with
    | none => simp [begun] at stepped
    | some start =>
      simp only [begun, Option.bind_eq_bind, Option.bind_some] at stepped ⊢
      split at stepped
      next inert =>
        cases stepped
        rw [if_pos inert, map_nil_append, words]
      next alive =>
        rw [if_neg alive]
        cases adjusted : adjust state start.width with
        | none => simp [adjusted] at stepped
        | some change =>
          obtain ⟨tokens, changed⟩ := change
          simp only [adjusted, Option.bind_some, Option.pure_def, Option.some.injEq,
            Prod.mk.injEq] at stepped ⊢
          obtain ⟨rfl, rfl⟩ := stepped
          cases left : Lexer.words changed (.inLine false) start.rest <;> simp [words, left]
  | inLine blank =>
    simp only [step] at stepped
    split at stepped
    next => cases stepped
    next rest =>
      rw [words_feed]
      split at stepped
      next inert =>
        cases stepped
        rw [if_pos inert, map_nil_append, words]
      next alive =>
        cases stepped
        rw [if_neg alive, words]
        rfl
    next => cases stepped
    next => cases stepped
    next c rest noFeed noSlash noHash =>
      rw [words_inLine noFeed noSlash noHash]
      split at stepped
      next gap =>
        cases stepped
        rw [if_pos gap, map_nil_append, words]
      next word =>
        rw [if_neg word]
        cases read : next? state.closers (c :: rest) with
        | none => simp [read] at stepped
        | some found =>
          obtain ⟨token, length, closers⟩ := found
          simp only [read, Option.bind_eq_bind, Option.bind_some, Option.pure_def,
            Option.some.injEq, Prod.mk.injEq] at stepped ⊢
          obtain ⟨rfl, rfl⟩ := stepped
          cases left : Lexer.words { state with closers := closers } (.inLine false)
            (rest.drop (length - 1)) <;> simp [words, left]

theorem words_of_steps {count : Nat} {spot last : Spot} {found : List Token}
    (stepped : spot.steps count = some (found, last)) :
    spot.words = last.words.map (found ++ ·) := by
  induction count generalizing spot found with
  | zero =>
    cases stepped
    rw [map_nil_append]
  | succ count ih =>
    obtain ⟨⟨first, next⟩, one, stepped⟩ := Option.bind_eq_some_iff.mp stepped
    obtain ⟨⟨others, final⟩, more, stepped⟩ := Option.bind_eq_some_iff.mp stepped
    cases stepped
    rw [words_of_step one, ih more, Option.map_map]
    simp only [Function.comp_def, List.append_assoc]

end Spot

theorem words_steps {state last : State} {place later : Place} {text rest : Text} (count : Nat)
    {found : List Token}
    (stepped : Spot.steps count ⟨state, place, text⟩ = some (found, ⟨last, later, rest⟩)) :
    words state place text = (words last later rest).map (found ++ ·) := by
  have all := Spot.words_of_steps stepped
  rw [Spot.words, Spot.words] at all
  exact all

end Stencil.Script.Lexer
