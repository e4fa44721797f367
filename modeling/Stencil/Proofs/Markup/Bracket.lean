import Stencil.Proofs.Markup.Phrase

/-!
Bracketed expressions as a grammar. The scanner, which only counts the braces that are open, stops
where a word of the grammar ends, and where no word begins it tells what is never closed.
-/

set_option autoImplicit false

namespace Stencil

namespace Bracket

/-! ### The grammar -/

/-- What stands between two braces: bracketed expressions, quoted strings, and characters that are
neither quotes nor braces. -/
inductive Body : Text → Prop where
  | nil : Body []
  | enclosed {inner rest : Text} (body : Body inner) (more : Body rest) :
      Body ('{' :: (inner ++ '}' :: rest))
  | string {quote : Char} {word rest : Text} (mark : isQuote quote = true)
      (string : Text.Quotes quote word) (more : Body rest) : Body (word ++ rest)
  | other {c : Char} {rest : Text} (plain : isQuote c = false) (opens : c ≠ '{') (closes : c ≠ '}')
      (more : Body rest) : Body (c :: rest)

/-- A bracketed expression, from its brace to the one that closes it. -/
def Word (text : Text) : Prop := ∃ body, Body body ∧ text = '{' :: (body ++ ['}'])

/-- What may come behind a brace that is not closed: as between two braces, but with further braces
that are not closed. -/
inductive Unclosed : Text → Prop where
  | body {text : Text} (body : Body text) : Unclosed text
  | opening {inner rest : Text} (body : Body inner) (more : Unclosed rest) :
      Unclosed (inner ++ '{' :: rest)

/-- Bodies of which each ends with a brace, one more than the number. -/
inductive Closes : Nat → Text → Prop where
  | last {inner : Text} (body : Body inner) : Closes 0 (inner ++ ['}'])
  | outer {depth : Nat} {inner rest : Text} (body : Body inner) (more : Closes depth rest) :
      Closes (depth + 1) (inner ++ '}' :: rest)

/-- What may be passed while braces are open, one more than the number: some of them are closed, but
not all. -/
inductive Passed : Nat → Text → Prop where
  | unclosed {depth : Nat} {text : Text} (more : Unclosed text) : Passed depth text
  | outer {depth : Nat} {inner rest : Text} (body : Body inner) (more : Passed depth rest) :
      Passed (depth + 1) (inner ++ '}' :: rest)

/-! ### What is put in front -/

/-- Whether a text can be put in front of a body. -/
def Leads (front : Text) : Prop := ∀ rest, Body rest → Body (front ++ rest)

theorem leads_other {c : Char} (plain : isQuote c = false) (opens : c ≠ '{') (closes : c ≠ '}') :
    Leads [c] := fun _ more => .other plain opens closes more

theorem leads_string {quote : Char} {word : Text} (mark : isQuote quote = true)
    (string : Text.Quotes quote word) : Leads word := fun _ more => .string mark string more

theorem leads_enclosed {inner : Text} (body : Body inner) : Leads ('{' :: (inner ++ ['}'])) := by
  intro rest more
  rw [List.cons_append, List.append_assoc]
  exact .enclosed body more

section Leads

variable {front text : Text} {depth : Nat} (leads : Leads front)

include leads

theorem Unclosed.lead (unclosed : Unclosed text) : Unclosed (front ++ text) := by
  cases unclosed with
  | body body => exact .body (leads _ body)
  | opening body more =>
    rw [← List.append_assoc]
    exact .opening (leads _ body) more

theorem Closes.lead (closes : Closes depth text) : Closes depth (front ++ text) := by
  cases closes with
  | last body =>
    rw [← List.append_assoc]
    exact .last (leads _ body)
  | outer body more =>
    rw [← List.append_assoc]
    exact .outer (leads _ body) more

theorem Passed.lead (passed : Passed depth text) : Passed depth (front ++ text) := by
  cases passed with
  | unclosed more => exact .unclosed (more.lead leads)
  | outer body more =>
    rw [← List.append_assoc]
    exact .outer (leads _ body) more

end Leads

/-- A brace in front is closed by the first of the braces that close. -/
theorem Closes.enclose {depth : Nat} {text : Text} (closes : Closes (depth + 1) text) :
    Closes depth ('{' :: text) := by
  cases closes with
  | outer body more =>
    have grown := more.lead (leads_enclosed body)
    rwa [List.cons_append, List.append_assoc] at grown

theorem Passed.enclose {depth : Nat} {text : Text} (passed : Passed (depth + 1) text) :
    Passed depth ('{' :: text) := by
  cases passed with
  | unclosed more => exact .unclosed (.opening .nil more)
  | outer body more =>
    have grown := more.lead (leads_enclosed body)
    rwa [List.cons_append, List.append_assoc] at grown

/-! ### The scanner -/

theorem shift_zero (outcome : Except Fault Nat) : shift 0 outcome = outcome := by
  rcases outcome with (_ | _) | _ <;> rfl

theorem shift_shift (first second : Nat) (outcome : Except Fault Nat) :
    shift first (shift second outcome) = shift (first + second) outcome := by
  rcases outcome with (_ | _) | _ <;> simp [shift, Fault.shift] <;> omega

theorem shift_eq_openString {count offset : Nat} {outcome : Except Fault Nat}
    (found : shift count outcome = .error (.openString offset)) :
    ∃ inner, outcome = .error (.openString inner) ∧ offset = inner + count := by
  rcases outcome with (inner | _) | _
  · cases found
    exact ⟨inner, rfl, rfl⟩
  · cases found
  · cases found

theorem not_backslash {quote : Char} (mark : isQuote quote = true) : quote ≠ '\\' := by
  rintro rfl
  cases mark

/-- A string is found at its quote if there is one. -/
theorem stringEnd?_eq_none_iff {quote : Char} (mark : isQuote quote = true) {rest : Text} :
    stringEnd? quote rest = none ↔
      ¬∃ word after, quote :: rest = word ++ after ∧ Text.Quotes quote word := by
  constructor
  · rintro unclosed ⟨_, after, same, body, rfl, inside⟩
    rw [List.cons_append, List.cons_append, List.append_assoc, List.cons.injEq] at same
    have closed := stringEnd?_inside (not_backslash mark) inside after
    rw [same.2, List.singleton_append, closed] at unclosed
    cases unclosed
  · intro nothing
    cases found : stringEnd? quote rest with
    | none => rfl
    | some stop =>
      obtain ⟨body, after, rfl, rfl, inside⟩ := Text.isInside_of_stringEnd? found
      refine absurd ⟨quote :: body ++ [quote], after, ?_, body, rfl, inside⟩ nothing
      simp

/-- A body is passed, however many braces are open. -/
theorem closing_body {body : Text} (shape : Body body) (depth : Nat) (follow : Text) :
    closing depth (body ++ follow) = shift body.length (closing depth follow) := by
  induction shape generalizing depth follow with
  | nil => exact (shift_zero _).symm
  | @enclosed inner rest _ _ within ih =>
    have brace : isQuote '{' = false := rfl
    have other : isQuote '}' = false := rfl
    rw [List.cons_append, List.append_assoc, closing_cons, brace, if_neg Bool.false_ne_true,
      if_pos rfl, within, List.cons_append, closing_cons, other, if_neg Bool.false_ne_true,
      if_neg (by decide), if_pos rfl]
    simp only [ih, shift_shift, List.length_cons, List.length_append]
    congr 1
    omega
  | @string quote word rest mark string _ ih =>
    obtain ⟨body, rfl, inside⟩ := string
    rw [List.append_assoc, List.append_assoc, List.cons_append, closing_cons, if_pos mark,
      List.singleton_append, stringEnd?_inside (not_backslash mark) inside]
    have dropped : (body ++ quote :: (rest ++ follow)).drop (body.length + 1) = rest ++ follow := by
      simp [List.drop_append]
    simp only [dropped, ih, shift_shift, List.length_append, List.length_cons, List.length_nil]
  | @other c rest plain opens closes _ ih =>
    rw [List.cons_append, closing_cons, plain, if_neg Bool.false_ne_true, if_neg opens,
      if_neg closes, ih, shift_shift, List.length_cons, Nat.add_comm]

theorem closing_closes {depth : Nat} {word : Text} (shape : Closes depth word) (follow : Text) :
    closing depth (word ++ follow) = .ok word.length := by
  have brace : isQuote '}' = false := rfl
  induction shape with
  | last body =>
    rw [List.append_assoc, closing_body body, List.singleton_append, closing_cons, brace,
      if_neg Bool.false_ne_true, if_neg (by decide), if_pos rfl, List.length_append]
    exact congrArg Except.ok (Nat.add_comm ..)
  | outer body _ ih =>
    rw [List.append_assoc, closing_body body, List.cons_append, closing_cons, brace,
      if_neg Bool.false_ne_true, if_neg (by decide), if_pos rfl]
    simp only [ih, List.length_append, List.length_cons]
    exact congrArg Except.ok (by omega)

/-- What a string takes of a text is put in front of the rest. -/
theorem stringEnd?_leads {quote : Char} {rest : Text} {stop : Nat} (mark : isQuote quote = true)
    (found : stringEnd? quote rest = some stop) : Leads (quote :: rest.take stop) := by
  obtain ⟨body, after, rfl, rfl, inside⟩ := Text.isInside_of_stringEnd? found
  refine leads_string mark ⟨body, ?_, inside⟩
  simp [List.take_append, List.take_of_length_le (Nat.le_succ body.length)]

theorem closes_of_closing {depth stop : Nat} {text : Text} (found : closing depth text = .ok stop) :
    Closes depth (text.take stop) := by
  fun_induction closing depth text generalizing stop with
  | case1 => cases found
  | case2 => cases found
  | case3 depth c rest quote length string ih =>
    obtain ⟨count, closed, rfl⟩ := shift_eq_ok found
    have sum : count + (length + 1) = length + count + 1 := by omega
    rw [sum, List.take_succ_cons, List.take_add, ← List.cons_append]
    exact (ih closed).lead (stringEnd?_leads quote string)
  | case4 depth rest quote ih =>
    obtain ⟨count, closed, rfl⟩ := shift_eq_ok found
    exact (ih closed).enclose
  | case5 rest =>
    cases found
    exact .last .nil
  | case6 rest _ _ outer ih =>
    obtain ⟨count, closed, rfl⟩ := shift_eq_ok found
    exact .outer .nil (ih closed)
  | case7 depth c rest quote opens closes ih =>
    obtain ⟨count, closed, rfl⟩ := shift_eq_ok found
    exact (ih closed).lead (leads_other (eq_false_of_ne_true quote) opens closes)

/-- A string that is not closed was met behind what the scanner passed. -/
theorem passed_of_closing {depth offset : Nat} {text : Text}
    (found : closing depth text = .error (.openString offset)) :
    ∃ passed quote rest, text = passed ++ quote :: rest ∧ offset = passed.length ∧
      Passed depth passed ∧ isQuote quote = true ∧ stringEnd? quote rest = none := by
  fun_induction closing depth text generalizing offset with
  | case1 => cases found
  | case2 depth c rest quote unclosed =>
    cases found
    exact ⟨[], c, rest, rfl, rfl, .unclosed (.body .nil), quote, unclosed⟩
  | case3 depth c rest quote length string ih =>
    obtain ⟨inner, later, rfl⟩ := shift_eq_openString found
    obtain ⟨passed, mark, after, same, rfl, before, unclosed⟩ := ih later
    have bound := (stringEnd?_le string).2
    refine ⟨c :: rest.take length ++ passed, mark, after, ?_, ?_,
      before.lead (stringEnd?_leads quote string), unclosed⟩
    · rw [List.append_assoc, ← same, List.cons_append, List.take_append_drop]
    · simp only [List.length_append, List.length_cons, List.length_take, Nat.min_eq_left bound]
      omega
  | case4 depth rest quote ih =>
    obtain ⟨inner, later, rfl⟩ := shift_eq_openString found
    obtain ⟨passed, mark, after, rfl, rfl, before, unclosed⟩ := ih later
    exact ⟨'{' :: passed, mark, after, rfl, rfl, before.enclose, unclosed⟩
  | case5 => cases found
  | case6 rest _ _ outer ih =>
    obtain ⟨inner, later, rfl⟩ := shift_eq_openString found
    obtain ⟨passed, mark, after, rfl, rfl, before, unclosed⟩ := ih later
    exact ⟨'}' :: passed, mark, after, rfl, rfl, .outer .nil before, unclosed⟩
  | case7 depth c rest quote opens closes ih =>
    obtain ⟨inner, later, rfl⟩ := shift_eq_openString found
    obtain ⟨passed, mark, after, rfl, rfl, before, unclosed⟩ := ih later
    exact ⟨c :: passed, mark, after, rfl, rfl,
      before.lead (leads_other (eq_false_of_ne_true quote) opens closes), unclosed⟩

/-- Behind what is not closed the scanner goes on with more braces open. -/
theorem closing_unclosed {passed : Text} (unclosed : Unclosed passed) (depth : Nat) :
    ∃ deeper, ∀ follow, closing depth (passed ++ follow) =
      shift passed.length (closing deeper follow) := by
  have brace : isQuote '{' = false := rfl
  induction unclosed generalizing depth with
  | body body => exact ⟨depth, closing_body body depth⟩
  | opening body _ ih =>
    obtain ⟨deeper, later⟩ := ih (depth + 1)
    refine ⟨deeper, fun follow => ?_⟩
    rw [List.append_assoc, closing_body body, List.cons_append, closing_cons, brace,
      if_neg Bool.false_ne_true, if_pos rfl, later, shift_shift, shift_shift, List.length_append,
      List.length_cons]
    congr 1
    omega

theorem word_cons {text : Text} : Word ('{' :: text) ↔ Closes 0 text := by
  constructor
  · rintro ⟨body, shape, same⟩
    rw [(List.cons.inj same).2]
    exact .last shape
  · intro closes
    cases closes with
    | last body => exact ⟨_, body, rfl⟩

/-- The scanner stops where a word ends. -/
theorem stop_eq_ok_iff {rest : Text} {count : Nat} :
    stop ('{' :: rest) = .ok count ↔ count ≤ rest.length + 1 ∧ Word (('{' :: rest).take count) := by
  constructor
  · intro found
    obtain ⟨inner, closed, rfl⟩ := shift_eq_ok found
    obtain ⟨before, after, same, rfl⟩ := closing_brace closed
    refine ⟨?_, word_cons.mpr (closes_of_closing closed)⟩
    rw [List.drop_one, List.tail_cons] at same
    simp only [same, List.length_append, List.length_cons]
    omega
  · rintro ⟨within, word⟩
    cases count with
    | zero =>
      obtain ⟨_, _, absurd⟩ := word
      cases absurd
    | succ count =>
      have closed := closing_closes (word_cons.mp word) (rest.drop count)
      rw [List.take_append_drop, List.length_take,
        Nat.min_eq_left (Nat.le_of_succ_le_succ within)] at closed
      rw [stop, List.drop_one, List.tail_cons, closed]
      rfl

/-- A string that is not closed is reported if it comes behind what may be passed. -/
theorem stop_eq_openString_iff {rest : Text} {offset : Nat} :
    stop ('{' :: rest) = .error (.openString offset) ↔
      ∃ passed quote after, rest = passed ++ quote :: after ∧ offset = passed.length + 1 ∧
        Unclosed passed ∧ isQuote quote = true ∧
          ¬∃ word tail, quote :: after = word ++ tail ∧ Text.Quotes quote word := by
  rw [stop, List.drop_one, List.tail_cons]
  constructor
  · intro found
    obtain ⟨inner, failed, rfl⟩ := shift_eq_openString found
    obtain ⟨passed, quote, after, rfl, rfl, before, mark, unclosed⟩ := passed_of_closing failed
    cases before with
    | unclosed more =>
      exact ⟨passed, quote, after, rfl, rfl, more, mark, (stringEnd?_eq_none_iff mark).mp unclosed⟩
  · rintro ⟨passed, quote, after, rfl, rfl, before, mark, nothing⟩
    obtain ⟨deeper, later⟩ := closing_unclosed before 0
    rw [later, closing_cons, if_pos mark, (stringEnd?_eq_none_iff mark).mpr nothing, shift_shift]
    exact congrArg (fun count => Except.error (Fault.openString count)) (by omega)

end Bracket

/-! ### Where a line has a brace -/

/-- The part of a text from one place to another. -/
def Text.between (text : Text) (start stop : Nat) : Text := (text.drop start).take (stop - start)

namespace Bracket

/-- Whether the bracketed expression that begins at one place of a text ends at another. -/
def EndsAt (text : Text) (start stop : Nat) : Prop :=
  start ≤ stop ∧ stop ≤ text.length ∧ Word (text.between start stop)

/-- Whether a scan of a text from a brace on meets a quote from which on no string is closed: between
the two there is only what may be passed. -/
def Unended (text : Text) (start place : Nat) : Prop :=
  ∃ quote, text[place]? = some quote ∧ isQuote quote = true ∧
    (∃ passed, text.between start place = '{' :: passed ∧ Unclosed passed) ∧
      ∀ stop, ¬Text.Quotes quote (text.between place stop)

variable {text : Text} {start : Nat}

theorem drop_of_brace {c : Char} (here : text[start]? = some c) :
    text.drop start = c :: text.drop (start + 1) := by
  obtain ⟨inside, rfl⟩ := List.getElem?_eq_some_iff.mp here
  exact List.drop_eq_getElem_cons inside

theorem endsAt_iff (brace : text[start]? = some '{') (count : Nat) :
    EndsAt text start (start + count) ↔ stop (text.drop start) = .ok count := by
  have whole := drop_of_brace brace
  have length := congrArg List.length whole
  rw [List.length_drop, List.length_cons] at length
  rw [EndsAt, Text.between, Nat.add_sub_cancel_left, whole, stop_eq_ok_iff, ← length]
  constructor
  · rintro ⟨-, within, word⟩
    exact ⟨by omega, word⟩
  · rintro ⟨within, word⟩
    exact ⟨Nat.le_add_right .., by omega, word⟩

theorem EndsAt.found {place : Nat} (ended : EndsAt text start place)
    (brace : text[start]? = some '{') : stop (text.drop start) = .ok (place - start) := by
  rw [← endsAt_iff brace, Nat.add_sub_cancel' ended.1]
  exact ended

theorem Unended.after {place : Nat} (unended : Unended text start place) : start ≤ place := by
  obtain ⟨_, -, -, ⟨_, shape, -⟩, -⟩ := unended
  by_contra before
  rw [Text.between, Nat.sub_eq_zero_of_le (by omega)] at shape
  cases shape

/-- A quote opens no string of a text if none can be cut off from there. -/
theorem not_quotes_iff {quote : Char} (here : text[start]? = some quote) :
    (∀ stop, ¬Text.Quotes quote (text.between start stop)) ↔
      ¬∃ word tail, quote :: text.drop (start + 1) = word ++ tail ∧ Text.Quotes quote word := by
  rw [← drop_of_brace here]
  constructor
  · rintro nothing ⟨word, tail, same, string⟩
    refine nothing (start + word.length) ?_
    rwa [Text.between, Nat.add_sub_cancel_left, same, List.take_left]
  · exact fun nothing stop string =>
      nothing ⟨_, _, (List.take_append_drop (stop - start) _).symm, string⟩

theorem unended_iff (brace : text[start]? = some '{') (offset : Nat) :
    Unended text start (start + offset) ↔ stop (text.drop start) = .error (.openString offset) := by
  have whole := drop_of_brace brace
  rw [whole, stop_eq_openString_iff]
  constructor
  · rintro ⟨quote, here, mark, ⟨passed, shape, unclosed⟩, nothing⟩
    have behind := drop_of_brace here
    rw [Text.between, Nat.add_sub_cancel_left] at shape
    have split := List.take_append_drop offset (text.drop start)
    rw [shape, List.drop_drop, behind, whole, List.cons_append, List.cons.injEq] at split
    refine ⟨passed, quote, _, split.2.symm, ?_, unclosed, mark, (not_quotes_iff here).mp nothing⟩
    have inside := (List.getElem?_eq_some_iff.mp here).1
    have length := congrArg List.length shape
    rw [List.length_take, List.length_drop, List.length_cons] at length
    omega
  · rintro ⟨passed, quote, after, same, rfl, unclosed, mark, nothing⟩
    have here : text[start + (passed.length + 1)]? = some quote := by
      rw [← List.getElem?_drop, whole, same]
      simp
    have behind : text.drop (start + (passed.length + 1)) = quote :: after := by
      rw [← List.drop_drop, whole, same, List.drop_succ_cons, List.drop_left]
    rw [drop_of_brace here] at behind
    rw [← (List.cons.inj behind).2] at nothing
    refine ⟨quote, here, mark, ⟨passed, ?_, unclosed⟩, (not_quotes_iff here).mpr nothing⟩
    rw [Text.between, Nat.add_sub_cancel_left, whole, same, List.take_succ_cons, List.take_left]

end Bracket

open Stencil.Bracket (EndsAt Unended)

namespace Lexer

/-- What is read from a brace on is what the scanner of brackets tells. -/
theorem value_eq (text : Text) (start : Nat) (brace : text[start]? = some '{') :
    value ⟨start, text.drop start⟩ =
      match Bracket.stop (text.drop start) with
      | .ok count =>
        .ok (⟨.bracketExpression, text.between start (start + count), start⟩,
          ⟨start + count, text.drop (start + count)⟩)
      | .error fault => .error (placed start fault) := by
  rw [value]
  simp only [Cursor.piece, Cursor.advance, Text.between, Nat.add_sub_cancel_left, List.drop_drop]
  rw [Bracket.drop_of_brace brace]
  cases Bracket.stop ('{' :: text.drop (start + 1)) <;> rfl

/-- From a brace on, what is read is the bracketed expression that begins there, which ends at one
place at most. If there is none, the error is at the quote of a string that is not closed, if such a
string is met, and else at the brace. -/
theorem value_of_brace (text : Text) (start : Nat) (brace : text[start]? = some '{') :
    (∀ stop, value ⟨start, text.drop start⟩ =
        .ok (⟨.bracketExpression, text.between start stop, start⟩, ⟨stop, text.drop stop⟩) ↔
      EndsAt text start stop) ∧
    (∀ one other, EndsAt text start one → EndsAt text start other → one = other) ∧
    ((∀ stop, ¬EndsAt text start stop) →
      (∀ place, Unended text start place →
        value ⟨start, text.drop start⟩ = .error ⟨.unterminatedString, place⟩) ∧
      ((∀ place, ¬Unended text start place) →
        value ⟨start, text.drop start⟩ = .error ⟨.unterminatedExpression, start⟩)) := by
  have read := value_eq text start brace
  refine ⟨fun stop => ⟨fun found => ?_, fun ended => ?_⟩, fun one other first second => ?_,
    fun nowhere => ⟨fun place unended => ?_, fun closed => ?_⟩⟩
  · rw [read] at found
    split at found
    next count stopped =>
      simp only [Except.ok.injEq, Prod.mk.injEq, Cursor.mk.injEq] at found
      obtain ⟨-, rfl, -⟩ := found
      exact (Bracket.endsAt_iff brace count).mpr stopped
    next => cases found
  · rw [read, ended.found brace]
    simp only [Nat.add_sub_cancel' ended.1]
  · have same := (first.found brace).symm.trans (second.found brace)
    have later := first.1
    have after := second.1
    rw [Except.ok.injEq] at same
    omega
  · have later : start ≤ place := unended.after
    have failed := (Bracket.unended_iff brace (place - start)).mp
      (by rwa [Nat.add_sub_cancel' later])
    rw [read, failed]
    simp only [placed, Nat.add_sub_cancel' later]
  · cases stopped : Bracket.stop (text.drop start) with
    | ok count => exact absurd ((Bracket.endsAt_iff brace count).mpr stopped) (nowhere _)
    | error fault =>
      cases fault with
      | openString offset => exact absurd ((Bracket.unended_iff brace offset).mpr stopped) (closed _)
      | openBracket => rw [read, stopped]; rfl

/-- A tag whose name is an expression with a brace in a string, and one in which the string that hides
the brace is not closed. -/
def hidingLine : Text := "%\x7b'\x7d\\''\x7b\x7d\x7d.a".toList

def cuttingLine : Text := "%\x7b\x7b\x7d\"\x7d\\\"".toList

theorem value_of_brace_hiding :
    (hidingLine[1]? = some '{' ∧ EndsAt hidingLine 1 10 ∧
      value ⟨1, hidingLine.drop 1⟩ =
        .ok (⟨.bracketExpression, hidingLine.between 1 10, 1⟩, ⟨10, ".a".toList⟩)) ∧
    cuttingLine[1]? = some '{' ∧ (∀ stop, ¬EndsAt cuttingLine 1 stop) ∧ Unended cuttingLine 1 4 ∧
      value ⟨1, cuttingLine.drop 1⟩ = .error ⟨.unterminatedString, 4⟩ := by
  have hides : hidingLine[1]? = some '{' := rfl
  have cuts : cuttingLine[1]? = some '{' := rfl
  have ended : EndsAt hidingLine 1 10 := (Bracket.endsAt_iff hides 9).mpr (by decide +kernel)
  have failed : Bracket.stop (cuttingLine.drop 1) = .error (.openString 3) := by decide +kernel
  have unended : Unended cuttingLine 1 4 := (Bracket.unended_iff cuts 3).mpr failed
  have nowhere (stop : Nat) : ¬EndsAt cuttingLine 1 stop := by
    intro ended
    cases failed.symm.trans (ended.found cuts)
  exact ⟨⟨hides, ended, ((value_of_brace hidingLine 1 hides).1 10).mpr ended⟩, cuts, nowhere, unended,
    ((value_of_brace cuttingLine 1 cuts).2.2 nowhere).1 4 unended⟩

end Lexer

end Stencil
