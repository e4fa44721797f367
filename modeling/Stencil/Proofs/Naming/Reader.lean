import Mathlib
import Stencil.Proofs.Naming.Word

/-!
What readers give where the words in front of them are tidy: each leaves tidy words, and what it
read has a property. A reader that fails gives nothing.
-/

set_option autoImplicit false
set_option mvcgen.warning false

namespace Stencil.Script

open Std.Do Reader

variable {α : Type}

abbrev Gives (reader : Reader α) (p : α → Prop) : Prop :=
  ⦃fun tokens => ⌜Tidy tokens⌝⦄ reader ⦃⇓? value tokens => ⌜Tidy tokens ∧ p value⌝⦄

theorem gives_iff {reader : Reader α} {p : α → Prop} :
    Gives reader p ↔ ∀ tokens, Tidy tokens → ∀ value rest, reader tokens = some (value, rest) →
      Tidy rest ∧ p value := by
  simp only [Gives, Triple]
  constructor
  · intro gives tokens tidy value rest same
    have given := gives tokens tidy
    simp only [wp, PredTrans.apply, StateT.run, PredTrans.pushArg, same] at given
    exact given
  · intro gives tokens tidy
    simp only [wp, PredTrans.apply, StateT.run, PredTrans.pushArg]
    cases same : reader tokens with
    | none => trivial
    | some found => exact gives tokens tidy _ _ same

theorem gives_of_trivial {reader : Reader α} {p : α → Prop} (gives : Gives reader fun _ => True)
    (always : ∀ value, p value) : Gives reader p :=
  gives_iff.mpr fun tokens tidy value rest same =>
    ⟨(gives_iff.mp gives tokens tidy value rest same).1, always value⟩

/-! ### Single words -/

@[spec] theorem peek_gives :
    Gives peek fun found => ∀ letters, found = some (.name letters) → (nameOf letters).Unbroken := by
  refine gives_iff.mpr ?_
  rintro tokens tidy value rest ⟨⟩
  exact ⟨tidy, fun letters same => tidy letters (List.mem_of_mem_head? same)⟩

@[spec] theorem peekSecond_gives : Gives peekSecond fun _ => True := by
  refine gives_iff.mpr ?_
  rintro tokens tidy value rest ⟨⟩
  exact ⟨tidy, trivial⟩

@[spec] theorem skip_gives (count : Nat) : Gives (skip count) fun _ => True := by
  refine gives_iff.mpr ?_
  rintro tokens tidy value rest ⟨⟩
  exact ⟨tidy.of_mem fun _ => (List.drop_sublist count tokens).mem, trivial⟩

@[spec] theorem token_gives (expected : Token) : Gives (token expected) fun _ => True := by
  refine gives_iff.mpr fun tokens tidy value rest found => ⟨?_, trivial⟩
  unfold token at found
  split at found
  next =>
    split at found
    next =>
      cases found
      exact (tidy_cons.mp tidy).2
    next => cases found
  next => cases found

@[spec] theorem symbol_gives (expected : Symbol) : Gives (symbol expected) fun _ => True :=
  token_gives _

@[spec] theorem keyword_gives (expected : Keyword) : Gives (keyword expected) fun _ => True :=
  token_gives _

@[spec] theorem name_gives : Gives name Text.Unbroken := by
  refine gives_iff.mpr fun tokens tidy value rest found => ?_
  unfold name at found
  split at found
  next letters others =>
    cases found
    obtain ⟨first, later⟩ := tidy_cons.mp tidy
    exact ⟨later, first letters rfl⟩
  next => cases found

@[spec] theorem nextIs_gives (expected : Token) : Gives (nextIs expected) fun _ => True := by
  refine gives_iff.mpr ?_
  rintro tokens tidy value rest ⟨⟩
  exact ⟨tidy, trivial⟩

@[spec] theorem accept_gives (expected : Token) : Gives (accept expected) fun _ => True := by
  refine gives_iff.mpr fun tokens tidy value rest found => ⟨?_, trivial⟩
  unfold accept at found
  split at found
  next =>
    split at found
    next =>
      cases found
      exact (tidy_cons.mp tidy).2
    next =>
      cases found
      exact tidy
  next =>
    cases found
    exact tidy

@[spec] theorem acceptSymbol_gives (expected : Symbol) :
    Gives (acceptSymbol expected) fun _ => True := accept_gives _

@[spec] theorem acceptKeyword_gives (expected : Keyword) :
    Gives (acceptKeyword expected) fun _ => True := accept_gives _

theorem bind_gives {β : Type} {reader : Reader α} {next : α → Reader β} {p : α → Prop}
    {q : β → Prop} (first : Gives reader p) (later : ∀ value, p value → Gives (next value) q) :
    Gives (reader >>= next) q := by
  refine gives_iff.mpr fun tokens tidy value rest found => ?_
  obtain ⟨⟨between, after⟩, read, found⟩ := Option.bind_eq_some_iff.mp found
  obtain ⟨still, known⟩ := gives_iff.mp first tokens tidy _ _ read
  exact gives_iff.mp (later between known) after still value rest found

/-! ### Choices -/

@[spec] theorem failure_gives (p : α → Prop) : Gives (failure : Reader α) p :=
  gives_iff.mpr fun _ _ _ _ found => nomatch found

@[spec] theorem guard_gives (condition : Prop) [Decidable condition] :
    Gives (guard condition : Reader Unit) fun _ => condition := by
  refine gives_iff.mpr fun tokens tidy value rest found => ?_
  by_cases holds : condition
  next =>
    rw [guard, if_pos holds] at found
    cases found
    exact ⟨tidy, holds⟩
  next =>
    rw [guard, if_neg holds] at found
    cases found

@[spec] theorem reject_gives (unexpected : Token) : Gives (reject unexpected) fun _ => True := by
  mvcgen [reject]
  all_goals simp_all

theorem orElse_gives {one other : Reader α} {p : α → Prop} (first : Gives one p)
    (second : Gives other p) : Gives (one <|> other) p := by
  refine gives_iff.mpr fun tokens tidy value rest found => ?_
  change (one tokens <|> other tokens) = some (value, rest) at found
  cases read : one tokens with
  | some pair =>
    rw [read] at found
    cases found
    exact gives_iff.mp first tokens tidy _ _ read
  | none =>
    rw [read] at found
    exact gives_iff.mp second tokens tidy value rest found

theorem possibly_gives {reader : Reader α} {p : α → Prop} (gives : Gives reader p) :
    Gives (possibly reader) fun found => ∀ value ∈ found, p value := by
  refine gives_iff.mpr fun tokens tidy value rest found => ?_
  unfold possibly at found
  split at found
  next read =>
    cases found
    have given := gives_iff.mp gives tokens tidy _ _ read
    simpa using given
  next =>
    cases found
    exact ⟨tidy, by simp⟩

/-! ### Several in a row -/

theorem growUpTo_gives {step : α → Reader (Option α)} {p : α → Prop}
    (gives : ∀ value, p value → Gives (step value) fun found => ∀ next ∈ found, p next)
    (count : Nat) {start : α} (begun : p start) : Gives (growUpTo step count start) p := by
  induction count generalizing start with
  | zero =>
    refine gives_iff.mpr fun tokens tidy value rest found => ?_
    cases found
    exact ⟨tidy, begun⟩
  | succ count ih =>
    have one := gives start begun
    rw [growUpTo]
    refine bind_gives one fun next known => ?_
    cases next with
    | none => mvcgen
    | some next => exact ih (known next rfl)

theorem grow_gives {step : α → Reader (Option α)} {start : α} {p : α → Prop}
    (gives : ∀ value, p value → Gives (step value) fun found => ∀ next ∈ found, p next)
    (begun : p start) : Gives (grow step start) p :=
  gives_iff.mpr fun tokens tidy value rest found =>
    gives_iff.mp (growUpTo_gives gives tokens.length begun) tokens tidy value rest found

variable {reader : Reader α} {p : α → Prop}

theorem many_gives (gives : Gives reader p) :
    Gives (many reader) fun found => ∀ value ∈ found, p value := by
  have one := possibly_gives gives
  have more : Gives (grow (fun found => do return (← possibly reader).map (· :: found)) [])
      fun found => ∀ value ∈ found, p value := by
    refine grow_gives (fun found all => ?_) (by simp)
    mvcgen [one]
    all_goals simp_all
  mvcgen [many, more]
  all_goals simp_all

theorem many1_gives (gives : Gives reader p) :
    Gives (many1 reader) fun found => ∀ value ∈ found, p value := by
  have others := many_gives gives
  mvcgen [many1, gives, others]
  all_goals simp_all

theorem separated_gives (separator : Token) (gives : Gives reader p) :
    Gives (separated separator reader) fun found => ∀ value ∈ found, p value := by
  have next : Gives (do token separator; reader) p := by
    mvcgen [gives]
    all_goals simp_all
  have others := many_gives next
  mvcgen [separated, gives, others]
  all_goals simp_all

theorem commaList_gives (gives : Gives reader p) :
    Gives (commaList reader) fun found => ∀ value ∈ found.1, p value := by
  have items := separated_gives (.symbol .comma) gives
  mvcgen [commaList, items]
  all_goals simp_all

theorem enclosed_gives (opening closing : Symbol) (gives : Gives reader p) :
    Gives (enclosed opening closing reader) p := by
  mvcgen [enclosed, gives]
  all_goals simp_all

end Stencil.Script
