import Stencil.Proofs.Text.Inside
import Stencil.Script.Lexer

/-!
Scanning without a bound on its steps. Every step of the scanner takes a character or leaves the
start of a line, so the bound that it is given is never reached. A string between two quotes is one
word, whatever is in it and whatever follows it.
-/

set_option autoImplicit false

namespace Stencil.Script.Lexer

/-- How many steps are enough. -/
def enough (place : Place) (text : Text) : Nat :=
  match place with
  | .lineStart => 2 * text.length + 2
  | .inLine _ => 2 * text.length + 1

/-- One step of the scanner, given what scans the text behind it. -/
def advance (next : State → Place → Text → Option (List Token)) (state : State) (place : Place)
    (text : Text) : Option (List Token) :=
  match place with
  | .lineStart => do
    let start ← indentation .zero none text
    let blank := start.rest.head?.any fun c => c == '#' || c == '\n'
    if blank || !state.closers.isEmpty then next state (.inLine blank) start.rest
    else do
      let (words, state) ← adjust state start.width
      let others ← next state (.inLine false) start.rest
      return words ++ others
  | .inLine blank =>
    match text with
    | [] => if state.closers.isEmpty then some [] else none
    | '\n' :: rest =>
      if blank || !state.closers.isEmpty then next state .lineStart rest
      else (next state .lineStart rest).map (Token.newline :: ·)
    | '\\' :: rest =>
      match rest with
      | '\n' :: after => if after.isEmpty then none else next state (.inLine blank) after
      | _ => none
    | '#' :: rest => next state (.inLine blank) (rest.dropWhile (· != '\n'))
    | c :: rest =>
      if isGap c then next state (.inLine blank) rest
      else do
        let (token, length, closers) ← next? state.closers text
        let others ← next { state with closers := closers } (.inLine false)
          (rest.drop (length - 1))
        return token :: others

theorem scan_succ (fuel : Nat) (state : State) (place : Place) (text : Text) :
    scan (fuel + 1) state place text = advance (scan fuel) state place text := by
  cases place <;> rfl

theorem suffix_indentation {width : Width} {fixed : Option Width} {text : Text}
    {start : LineStart} (found : indentation width fixed text = some start) :
    start.rest <:+ text := by
  fun_induction indentation width fixed text with
  | case1 width fixed rest ih => exact (ih found).trans (List.suffix_cons _ _)
  | case2 width fixed rest ih => exact (ih found).trans (List.suffix_cons _ _)
  | case3 width fixed rest ih => exact (ih found).trans (List.suffix_cons _ _)
  | case4 => cases found
  | case5 width fixed rest _ _ ih =>
    exact (ih found).trans ((List.suffix_cons _ _).trans (List.suffix_cons _ _))
  | case6 => cases found
  | case7 =>
    cases found
    exact List.suffix_refl _

theorem length_indentation {width : Width} {fixed : Option Width} {text : Text}
    {start : LineStart} (found : indentation width fixed text = some start) :
    start.rest.length ≤ text.length := (suffix_indentation found).length_le

theorem advance_congr {one other : State → Place → Text → Option (List Token)} {place : Place}
    {text : Text} (state : State)
    (same : ∀ state place' text', enough place' text' < enough place text →
      one state place' text' = other state place' text') :
    advance one state place text = advance other state place text := by
  cases place with
  | lineStart =>
    simp only [advance]
    cases found : indentation .zero none text with
    | none => rfl
    | some start =>
      have bound := length_indentation found
      have here (state : State) (blank : Bool) :
          one state (.inLine blank) start.rest = other state (.inLine blank) start.rest :=
        same _ _ _ (by simp only [enough]; omega)
      simp only [Option.bind_eq_bind, Option.bind_some, here]
  | inLine blank =>
    simp only [advance]
    split
    next => rfl
    next rest =>
      rw [same state .lineStart rest (by simp only [enough, List.length_cons]; omega)]
    next rest =>
      split
      next after =>
        rw [same state _ after (by simp only [enough, List.length_cons]; omega)]
      next => rfl
    next rest =>
      refine same _ _ _ ?_
      have bound := (List.dropWhile_suffix (l := rest) (· != '\n')).length_le
      simp only [enough, List.length_cons]
      omega
    next c rest _ _ _ =>
      have here (state : State) (blank : Bool) (count : Nat) :
          one state (.inLine blank) (rest.drop count) =
            other state (.inLine blank) (rest.drop count) :=
        same _ _ _ (by simp only [enough, List.length_cons, List.length_drop]; omega)
      simp only [here]
      rw [show one state (.inLine blank) rest = other state (.inLine blank) rest from
        here state blank 0]

/-- The words of a text, however long it is. -/
def words (state : State) (place : Place) (text : Text) : Option (List Token) :=
  scan (enough place text) state place text

theorem scan_eq_words {fuel : Nat} {place : Place} {text : Text} (state : State)
    (bound : enough place text ≤ fuel) : scan fuel state place text = words state place text := by
  induction size : enough place text using Nat.strongRecOn generalizing fuel state place text with
  | ind size ih =>
    have positive : 0 < enough place text := by
      cases place <;> simp only [enough] <;> omega
    obtain ⟨more, rfl⟩ := Nat.exists_eq_add_of_lt (Nat.lt_of_lt_of_le positive bound)
    obtain ⟨least, same⟩ := Nat.exists_eq_add_of_lt positive
    rw [words, same, Nat.zero_add, Nat.zero_add, scan_succ, scan_succ]
    refine advance_congr state fun state place' text' smaller => ?_
    rw [ih _ (size ▸ smaller) state (by omega) rfl, ih _ (size ▸ smaller) state (by omega) rfl]

theorem words_eq (state : State) (place : Place) (text : Text) :
    words state place text = advance words state place text := by
  have positive : 0 < enough place text := by
    cases place <;> simp only [enough] <;> omega
  obtain ⟨least, same⟩ := Nat.exists_eq_add_of_lt positive
  rw [words, same, Nat.zero_add, scan_succ]
  exact advance_congr state fun state place' text' smaller => scan_eq_words state (by omega)

theorem scanAll_eq (text : Text) : scanAll text = words ⟨[], []⟩ .lineStart text := rfl

end Stencil.Script.Lexer

/-! ### Strings -/

namespace Stencil.Script.Lexer

variable {quote : Char}

theorem stringLength?_cons {c : Char} {rest : Text} (plain : c ≠ '\\') :
    stringLength? quote (c :: rest) =
      if c = quote then some 1
      else if c = '\n' then none
      else (stringLength? quote rest).map (· + 1) := by
  rw [stringLength?]
  · rintro rfl
    exact absurd rfl plain
  · rintro d more rfl
    exact absurd rfl plain

/-- A line break in a string ends the line before the string. -/
theorem stringLength?_append {body : Text} (inside : Text.isInside quote body = true)
    (plain : quote ≠ '\\') (rest : Text) :
    stringLength? quote (body ++ quote :: rest) = some (body.length + 1) ∨
      '\n' ∈ body ∧ stringLength? quote (body ++ quote :: rest) = none := by
  fun_induction Text.isInside quote body with
  | case1 => simp [stringLength?_cons plain]
  | case2 => cases inside
  | case3 c body ih =>
    rcases ih inside with found | ⟨broken, missing⟩
    · simp [stringLength?, found]
    · simp [stringLength?, missing, broken]
  | case4 c body lone pair ih =>
    simp only [Bool.and_eq_true, bne_iff_ne, ne_eq] at inside
    rw [List.cons_append, stringLength?_cons (Text.plain_of_alone lone pair), if_neg inside.1]
    by_cases breaks : c = '\n'
    next => exact .inr (by simp [breaks])
    next =>
      rcases ih inside.2 with found | ⟨broken, missing⟩
      · simp [breaks, found]
      · simp [breaks, missing, broken]

theorem not_long {body rest : Text} (inside : Text.isInside quote body = true)
    (plain : quote ≠ '\\') (apart : rest.head? ≠ some quote) :
    [quote, quote].isPrefixOf (body ++ quote :: rest) = false := by
  cases body with
  | nil =>
    cases rest with
    | nil => simp [List.isPrefixOf]
    | cons d more =>
      have other : quote ≠ d := fun same => apart (by simp [same])
      simp [List.isPrefixOf, other]
  | cons c body =>
    by_cases same : c = '\\'
    next => simp [List.isPrefixOf, same, plain]
    next =>
      rw [Text.isInside_cons same] at inside
      simp only [Bool.and_eq_true, bne_iff_ne, ne_eq] at inside
      simp [List.isPrefixOf, Ne.symm inside.1]

theorem quotes?_append {body rest : Text} (inside : Text.isInside quote body = true)
    (plain : quote ≠ '\\') (apart : rest.head? ≠ some quote) :
    quotes? (quote :: (body ++ quote :: rest)) = some (body, body.length + 2) ∨
      '\n' ∈ body ∧ quotes? (quote :: (body ++ quote :: rest)) = none := by
  rw [quotes?, not_long inside plain apart]
  rcases stringLength?_append inside plain rest with found | ⟨broken, missing⟩
  · simp [found]
  · simp [missing, broken]

def plainQuotation (body : Text) : Token := .quotation ⟨false, false, false, body⟩

theorem next?_quotation {body rest : Text} (closers : List Symbol) (isQuote : isQuote quote = true)
    (inside : Text.isInside quote body = true) (apart : rest.head? ≠ some quote) :
    next? closers (quote :: (body ++ quote :: rest)) =
        some (plainQuotation body, body.length + 2, closers) ∨
      '\n' ∈ body ∧ next? closers (quote :: (body ++ quote :: rest)) = none := by
  have kind : quote = '"' ∨ quote = '\'' := by simpa [Lexer.isQuote] using isQuote
  have plain : quote ≠ '\\' := by rcases kind with rfl | rfl <;> decide
  have number : isNumberStart (quote :: (body ++ quote :: rest)) = false := by
    rcases kind with rfl | rfl <;> rfl
  have outside : isWordPart quote = false := by rcases kind with rfl | rfl <;> decide
  have word : word? (quote :: (body ++ quote :: rest)) =
      (quotes? (quote :: (body ++ quote :: rest))).map fun found =>
        (plainQuotation found.1, found.2) := by
    simp [word?, outside, isQuote, quotationStyle?, plainQuotation]
  rw [next?, number]
  rcases quotes?_append inside plain apart with found | ⟨broken, missing⟩
  · simp [isQuote, word, found]
  · simp [isQuote, word, missing, broken]

theorem words_quotation {body rest : Text} (indents : List Width) (closers : List Symbol)
    (blank : Bool) (isQuote : isQuote quote = true) (inside : Text.isInside quote body = true)
    (apart : rest.head? ≠ some quote) :
    words ⟨indents, closers⟩ (.inLine blank) (quote :: (body ++ quote :: rest)) =
        (words ⟨indents, closers⟩ (.inLine false) rest).map (plainQuotation body :: ·) ∨
      '\n' ∈ body ∧
        words ⟨indents, closers⟩ (.inLine blank) (quote :: (body ++ quote :: rest)) = none := by
  have kind : quote = '"' ∨ quote = '\'' := by simpa [Lexer.isQuote] using isQuote
  have step : words ⟨indents, closers⟩ (.inLine blank) (quote :: (body ++ quote :: rest)) = (do
      let (token, length, closers) ← next? closers (quote :: (body ++ quote :: rest))
      let others ← words ⟨indents, closers⟩ (.inLine false)
        ((body ++ quote :: rest).drop (length - 1))
      return token :: others) := by
    rw [words_eq]
    rcases kind with rfl | rfl <;> simp [advance, isGap]
  rcases next?_quotation closers isQuote inside apart with found | ⟨broken, missing⟩
  · left
    have behind : (body ++ quote :: rest).drop (body.length + 1) = rest := by
      simp [List.drop_append]
    cases read : words ⟨indents, closers⟩ (.inLine false) rest <;>
      simp [step, found, behind, read]
  · right
    simp [step, missing, broken]

end Stencil.Script.Lexer
