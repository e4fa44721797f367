import Mathlib
import Stencil.Script.Grammar.Statement

/-!
What readers make of words whose beginning they know. An expression ends where a word comes that
none of the operators is, and loops of readers end without a bound on their steps.
-/

set_option autoImplicit false

namespace Stencil.Script

namespace Reader

variable {α β : Type}

theorem bind_apply (reader : Reader α) (next : α → Reader β) (tokens : List Token) :
    (reader >>= next) tokens = (reader tokens).bind fun found => next found.1 found.2 := rfl

theorem pure_apply (value : α) (tokens : List Token) :
    (pure value : Reader α) tokens = some (value, tokens) := rfl

theorem map_apply (change : α → β) (reader : Reader α) (tokens : List Token) :
    (change <$> reader) tokens = (reader tokens).map fun found => (change found.1, found.2) := by
  cases read : reader tokens with
  | none => simp [Functor.map, StateT.map, read]
  | some found => simp [Functor.map, StateT.map, read]

theorem failure_apply (tokens : List Token) : (failure : Reader α) tokens = none := rfl

theorem reject_other {unexpected : Token} {tokens : List Token}
    (other : tokens.head? ≠ some unexpected) : reject unexpected tokens = some ((), tokens) := by
  have apart : (tokens.head? == some unexpected) = false := by simpa using other
  simp only [reject, nextIs, bind_apply, Option.bind_some, apart]
  rfl

theorem symbol_apply (expected : Symbol) (rest : List Token) :
    symbol expected (.symbol expected :: rest) = some ((), rest) := by
  simp [symbol, token]

theorem accept_other {expected : Token} {tokens : List Token}
    (other : tokens.head? ≠ some expected) : accept expected tokens = some (false, tokens) := by
  cases tokens with
  | nil => rfl
  | cons found rest =>
    have different : found ≠ expected := fun same => other (by simp [same])
    simp [accept, different]

theorem accept_same (expected : Token) (rest : List Token) :
    accept expected (expected :: rest) = some (true, rest) := by
  simp [accept]

/-- The steps of a loop, up to the one that finds nothing. -/
inductive Grows (step : α → Reader (Option α)) : α → List Token → α → List Token → Prop where
  | stop {value : α} {tokens : List Token} (ends : step value tokens = some (none, tokens)) :
      Grows step value tokens value tokens
  | next {value later last : α} {tokens rest after : List Token}
      (found : step value tokens = some (some later, rest)) (shorter : rest.length < tokens.length)
      (others : Grows step later rest last after) : Grows step value tokens last after

theorem growUpTo_of_grows {step : α → Reader (Option α)} {value last : α}
    {tokens after : List Token} (grows : Grows step value tokens last after) {count : Nat}
    (bound : tokens.length ≤ count) : growUpTo step count value tokens = some (last, after) := by
  induction grows generalizing count with
  | stop ends =>
    cases count with
    | zero => rfl
    | succ count => simp [growUpTo, bind_apply, ends, pure_apply]
  | next found shorter others ih =>
    cases count with
    | zero => omega
    | succ count =>
      simp only [growUpTo, bind_apply, found, Option.bind_some]
      exact ih (by omega)

theorem grow_of_grows {step : α → Reader (Option α)} {value last : α}
    {tokens after : List Token} (grows : Grows step value tokens last after) :
    grow step value tokens = some (last, after) :=
  growUpTo_of_grows grows (Nat.le_refl _)

theorem grow_stop {step : α → Reader (Option α)} {value : α} {tokens : List Token}
    (ends : step value tokens = some (none, tokens)) : grow step value tokens = some (value, tokens) :=
  grow_of_grows (.stop ends)

/-- Values that are read one behind the other, up to words that none begins with. -/
inductive ReadsMany (reader : Reader α) : List Token → List α → List Token → Prop where
  | stop {tokens : List Token} (ends : reader tokens = none) : ReadsMany reader tokens [] tokens
  | next {value : α} {values : List α} {tokens rest after : List Token}
      (found : reader tokens = some (value, rest)) (shorter : rest.length < tokens.length)
      (others : ReadsMany reader rest values after) :
      ReadsMany reader tokens (value :: values) after

theorem grows_of_readsMany {reader : Reader α} {values : List α} {tokens after : List Token}
    (reads : ReadsMany reader tokens values after) (found : List α) :
    Grows (fun found => do return (← possibly reader).map (· :: found)) found tokens
      (values.reverse ++ found) after := by
  induction reads generalizing found with
  | stop ends => exact .stop (by simp [bind_apply, possibly, ends, pure_apply])
  | next read shorter others ih =>
    rename_i value values tokens rest after
    have step : (do return (← possibly reader).map (· :: found) : Reader (Option (List α))) tokens =
        some (some (value :: found), rest) := by
      simp [bind_apply, possibly, read, pure_apply]
    refine .next step shorter ?_
    simpa using ih (value :: found)

theorem many_of_reads {reader : Reader α} {values : List α} {tokens after : List Token}
    (reads : ReadsMany reader tokens values after) : many reader tokens = some (values, after) := by
  rw [many, bind_apply, grow_of_grows (grows_of_readsMany reads [])]
  simp [pure_apply]

theorem many_stop {reader : Reader α} {tokens : List Token} (ends : reader tokens = none) :
    many reader tokens = some ([], tokens) :=
  many_of_reads (.stop ends)

theorem many1_of_reads {reader : Reader α} {value : α} {values : List α}
    {tokens rest after : List Token} (first : reader tokens = some (value, rest))
    (reads : ReadsMany reader rest values after) :
    many1 reader tokens = some (value :: values, after) := by
  rw [many1, bind_apply, first, Option.bind_some, bind_apply, many_of_reads reads]
  rfl

/-- A single item, with no separator behind it. -/
theorem separated_single {separator : Token} {item : Reader α} {value : α}
    {tokens rest : List Token} (read : item tokens = some (value, rest))
    (ends : rest.head? ≠ some separator) :
    separated separator item tokens = some ([value], rest) := by
  have none : (do token separator; item) rest = none := by
    cases rest with
    | nil => rfl
    | cons found more =>
      have different : found ≠ separator := fun same => ends (by simp [same])
      simp [bind_apply, token, different]
  rw [separated, bind_apply, read, Option.bind_some, bind_apply, many_stop none]
  rfl

theorem commaList_single {item : Reader α} {value : α} {tokens rest : List Token}
    (read : item tokens = some (value, rest)) (ends : rest.head? ≠ some (.symbol .comma)) :
    commaList item tokens = some (([value], false), rest) := by
  rw [commaList, bind_apply, separated_single read ends, Option.bind_some, bind_apply,
    acceptSymbol, accept_other ends]
  rfl

/-! ### What has been read -/

section Inversion

variable {reader : Reader α} {tokens rest : List Token}

/-- What is read again and again is put in front of what was found before. -/
theorem grown_extends {count : Nat} {found last : List α}
    (read : growUpTo (fun found => do return (← possibly reader).map (· :: found)) count found
      tokens = some (last, rest)) :
    last = found ∧ rest = tokens ∨
      ∃ more value middle, reader tokens = some (value, middle) ∧ last = more ++ value :: found := by
  induction count generalizing found tokens with
  | zero =>
    cases read
    exact .inl ⟨rfl, rfl⟩
  | succ count ih =>
    simp only [growUpTo, bind_apply, possibly] at read
    cases first : reader tokens with
    | none =>
      rw [first] at read
      cases read
      exact .inl ⟨rfl, rfl⟩
    | some pair =>
      obtain ⟨value, middle⟩ := pair
      rw [first] at read
      rcases ih read with ⟨rfl, -⟩ | ⟨more, next, -, -, rfl⟩
      · exact .inr ⟨[], value, middle, rfl, rfl⟩
      · exact .inr ⟨more ++ [next], value, middle, rfl, by simp⟩

theorem many_cases {values : List α} (read : many reader tokens = some (values, rest)) :
    values = [] ∧ rest = tokens ∨
      ∃ value others middle, values = value :: others ∧ reader tokens = some (value, middle) := by
  obtain ⟨⟨grown, last⟩, steps, later⟩ := Option.bind_eq_some_iff.mp read
  cases later
  rcases grown_extends steps with ⟨rfl, ended⟩ | ⟨more, value, middle, one, rfl⟩
  · exact .inl ⟨rfl, ended⟩
  · exact .inr ⟨value, more.reverse, middle, by simp, one⟩

theorem many_nothing (read : many reader tokens = some ([], rest)) : rest = tokens := by
  rcases many_cases read with ⟨-, ended⟩ | ⟨value, others, middle, same, -⟩
  · exact ended
  · cases same

theorem item_of_separated {separator : Token} {value : α}
    (read : separated separator reader tokens = some ([value], rest)) :
    reader tokens = some (value, rest) := by
  obtain ⟨⟨first, middle⟩, one, read⟩ := Option.bind_eq_some_iff.mp read
  obtain ⟨⟨others, later⟩, more, read⟩ := Option.bind_eq_some_iff.mp read
  cases read
  cases many_nothing more
  exact one

theorem token_taken {expected : Token} (read : token expected tokens = some ((), rest)) :
    tokens = expected :: rest := by
  simp only [token] at read
  split at read
  next word more =>
    split at read
    next same =>
      cases read
      rw [same]
    next => cases read
  next => cases read

theorem accept_cases {expected : Token} {found : Bool} (read : accept expected tokens = some (found, rest)) :
    (found = true ∧ tokens = expected :: rest) ∨
      (found = false ∧ tokens = rest ∧ rest.head? ≠ some expected) := by
  simp only [accept] at read
  split at read
  next word more =>
    split at read
    next same =>
      cases read
      exact .inl ⟨rfl, by rw [same]⟩
    next other =>
      cases read
      exact .inr ⟨rfl, rfl, by simpa using other⟩
  next =>
    cases read
    exact .inr ⟨rfl, rfl, by simp⟩

/-- A list of a single item without a comma is the item. -/
theorem item_of_commaList {value : α} (read : commaList reader tokens = some (([value], false), rest)) :
    reader tokens = some (value, rest) := by
  obtain ⟨⟨items, behind⟩, separated, read⟩ := Option.bind_eq_some_iff.mp read
  obtain ⟨⟨trailing, last⟩, comma, read⟩ := Option.bind_eq_some_iff.mp read
  cases read
  rcases accept_cases comma with ⟨same, -⟩ | ⟨-, rfl, -⟩
  · cases same
  · exact item_of_separated separated

end Inversion

end Reader

namespace Grammar

open Reader

/-- Words behind which an expression can only end. -/
def endsExpression : Token → Bool
  | .symbol .closeParen => true
  | .symbol .closeBracket => true
  | .symbol .assign => true
  | .symbol .comma => true
  | .symbol .semicolon => true
  | .newline => true
  | _ => false

/-- Words that begin an operand with nothing before it. -/
def beginsOperand : Token → Bool
  | .name _ => true
  | .quotation _ => true
  | _ => false

def Ends (tokens : List Token) : Prop := ∀ token ∈ tokens.head?, endsExpression token = true

def Begins (tokens : List Token) : Prop := ∃ token rest, tokens = token :: rest ∧
  beginsOperand token = true

theorem Begins.head?_ne {tokens : List Token} (begins : Begins tokens) (token : Token)
    (other : beginsOperand token = false) : tokens.head? ≠ some token := by
  obtain ⟨first, rest, rfl, operand⟩ := begins
  rintro same
  simp only [List.head?_cons, Option.some.injEq] at same
  rw [same, other] at operand
  cases operand

theorem Ends.head?_ne {tokens : List Token} (ends : Ends tokens) (token : Token)
    (other : endsExpression token = false) : tokens.head? ≠ some token := by
  intro same
  rw [ends token same] at other
  cases other

/-- Where an expression ends, nothing is found that only an operator gives. -/
theorem Ends.bind_eq_none {tokens : List Token} (ends : Ends tokens) {α : Type}
    (op? : Token → Option α) (none : ∀ token, endsExpression token = true → op? token = none) :
    tokens.head?.bind op? = Option.none := by
  cases first : tokens.head? with
  | none => rfl
  | some token => exact none token (ends token first)

variable {nested : Nested} {tokens rest : List Token} {expr : Expr}

theorem factor_of_primary (begins : Begins tokens)
    (read : primary nested tokens = some (expr, rest))
    (ends : rest.head? ≠ some (.symbol .doubleStar)) :
    factor nested tokens = some (expr, rest) := by
  simp only [factor, power, awaited, acceptSymbol, acceptKeyword, bind_apply, Option.bind_some,
    accept_other (begins.head?_ne (.symbol .plus) rfl),
    accept_other (begins.head?_ne (.symbol .minus) rfl),
    accept_other (begins.head?_ne (.symbol .tilde) rfl),
    accept_other (begins.head?_ne (.keyword .awaitWord) rfl), Bool.false_eq_true,
    if_false, read, accept_other ends, pure_apply]

theorem leftGrouped_single {op? : Token → Option BinaryOp} {operand : Reader Expr}
    (read : operand tokens = some (expr, rest)) (ends : rest.head?.bind op? = none) :
    leftGrouped op? operand tokens = some (expr, rest) := by
  rw [leftGrouped, bind_apply, read, Option.bind_some]
  refine grow_stop ?_
  simp [possibly, bind_apply, peek, ends, failure_apply]

theorem comparison_of_bitOr (read : bitOr nested tokens = some (expr, rest)) (ends : Ends rest) :
    comparison nested tokens = some (expr, rest) := by
  have none : comparisonOp rest = none := by
    cases rest with
    | nil => rfl
    | cons token more =>
      have last := ends token rfl
      unfold endsExpression at last
      split at last <;> first | rfl | cases last
  have stop : (do let op ← comparisonOp; return (op, ← bitOr nested) :
      Reader (Comparison × Expr)) rest = Option.none := by
    simp [bind_apply, none]
  rw [comparison, bind_apply, read, Option.bind_some, bind_apply, many_stop stop]
  rfl

theorem bitOr_of_sum (read : sum nested tokens = some (expr, rest)) (ends : Ends rest) :
    bitOr nested tokens = some (expr, rest) := by
  refine leftGrouped_single (leftGrouped_single (leftGrouped_single (leftGrouped_single read ?_)
    ?_) ?_) ?_
  all_goals
    refine ends.bind_eq_none _ fun token last => ?_
    unfold endsExpression at last
    split at last <;> first | rfl | cases last

theorem expression_of_bitOr (plain : tokens.head? ≠ some (.keyword .notWord))
    (flat : tokens.head? ≠ some (.keyword .lambdaWord))
    (read : bitOr nested tokens = some (expr, rest)) (ends : Ends rest) :
    expression nested tokens = some (expr, rest) := by
  have compared : inversion nested tokens = some (expr, rest) := by
    rw [inversion, bind_apply, acceptKeyword, accept_other plain]
    exact comparison_of_bitOr read ends
  have joined : conjunction nested tokens = some (expr, rest) := by
    rw [conjunction, bind_apply, separated_single compared (ends.head?_ne _ rfl)]
    rfl
  have chosen : disjunction nested tokens = some (expr, rest) := by
    rw [disjunction, bind_apply, separated_single joined (ends.head?_ne _ rfl)]
    rfl
  have direct : (tokens.head? == some (Token.keyword .lambdaWord)) = false := by simpa using flat
  simp only [expression, bind_apply, nextIs, direct, Option.bind_some, Bool.false_eq_true, if_false,
    chosen, acceptKeyword, accept_other (ends.head?_ne (.keyword .ifWord) rfl),
    pure_apply]

theorem expression_of_sum (begins : Begins tokens)
    (read : sum nested tokens = some (expr, rest)) (ends : Ends rest) :
    expression nested tokens = some (expr, rest) :=
  expression_of_bitOr (begins.head?_ne _ rfl) (begins.head?_ne _ rfl) (bitOr_of_sum read ends) ends

end Grammar

end Stencil.Script
