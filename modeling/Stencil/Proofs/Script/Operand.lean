import Stencil.Proofs.Script.Reading
import Stencil.Proofs.Script.Words

/-!
Reading strings, calls with one argument, and sums of them.
-/

set_option autoImplicit false

namespace Stencil.Script.Grammar

open Reader Lexer

/-- Words behind which an operand can only end. -/
def endsOperand (token : Token) : Bool := endsExpression token || token == .symbol .plus

def OperandEnds (tokens : List Token) : Prop := ∀ token ∈ tokens.head?, endsOperand token = true

theorem Ends.operandEnds {tokens : List Token} (ends : Ends tokens) : OperandEnds tokens :=
  fun token first => by simp [endsOperand, ends token first]

theorem OperandEnds.head?_ne {tokens : List Token} (ends : OperandEnds tokens) (token : Token)
    (other : endsOperand token = false) : tokens.head? ≠ some token := by
  intro same
  rw [ends token same] at other
  cases other

theorem operandEnds_cons {token : Token} {rest : List Token} (ends : endsOperand token = true) :
    OperandEnds (token :: rest) := by
  intro first same
  cases same
  exact ends

variable {nested : Nested} {tokens rest : List Token} {expr : Expr}

theorem trailer_none (object : Expr) (ends : OperandEnds tokens) :
    trailer nested object tokens = some (none, tokens) := by
  have bracket : (tokens.head? == some (Token.symbol .openBracket)) = false := by
    simpa using ends.head?_ne (.symbol .openBracket) rfl
  simp only [trailer, acceptSymbol, nextIs, bind_apply, Option.bind_some, bracket,
    accept_other (ends.head?_ne (.symbol .dot) rfl),
    accept_other (ends.head?_ne (.symbol .openParen) rfl), Bool.false_eq_true, if_false,
    pure_apply]

theorem term_of_factor (read : factor nested tokens = some (expr, rest)) (ends : OperandEnds rest) :
    term nested tokens = some (expr, rest) := by
  refine leftGrouped_single read ?_
  cases rest with
  | nil => rfl
  | cons token more =>
    have last := ends token rfl
    unfold endsOperand endsExpression at last
    split at last <;> first | rfl | simp_all [termOp?]

theorem term_of_primary (begins : Begins tokens)
    (read : primary nested tokens = some (expr, rest)) (ends : OperandEnds rest) :
    term nested tokens = some (expr, rest) :=
  term_of_factor (factor_of_primary begins read (ends.head?_ne _ rfl)) ends

/-! ### Strings -/

theorem quotation_none (ends : OperandEnds tokens) : quotation tokens = none := by
  cases tokens with
  | nil => rfl
  | cons token more =>
    have last := ends token rfl
    unfold endsOperand endsExpression at last
    split at last <;> first | rfl | simp_all [quotation]

theorem atom_quotation (body : Text) (ends : quotation rest = none) :
    atom nested (plainQuotation body :: rest) =
      (Escape.unescape? body).map fun points => (.constant (.string points), rest) := by
  have read : many1 quotation (plainQuotation body :: rest) =
      some ([⟨false, false, false, body⟩], rest) :=
    many1_of_reads rfl (.stop ends)
  simp only [atom, bind_apply, peek, List.head?_cons, Option.bind_some, plainQuotation,
    quotations] at read ⊢
  rw [read]
  cases meant : Escape.unescape? body with
  | none => simp [quotationsValue, plainPoints, meant, failure_apply]
  | some points => simp [quotationsValue, plainPoints, meant, pure_apply]

theorem primary_quotation {body : Text} {points : Points}
    (meant : Escape.unescape? body = some points) (ends : OperandEnds rest) :
    primary nested (plainQuotation body :: rest) = some (.constant (.string points), rest) := by
  rw [primary, bind_apply, atom_quotation body (quotation_none ends), meant]
  exact grow_stop (trailer_none _ ends)

theorem begins_quotation (body : Text) (rest : List Token) :
    Begins (plainQuotation body :: rest) :=
  ⟨_, _, rfl, rfl⟩

/-! ### Sums -/

/-- Operands behind plus signs. -/
inductive ReadsTerms (nested : Nested) : List Token → List Expr → List Token → Prop where
  | stop {rest : List Token} (ends : Ends rest) : ReadsTerms nested rest [] rest
  | next {expr : Expr} {exprs : List Expr} {tokens rest after : List Token}
      (read : term nested tokens = some (expr, rest)) (shorter : rest.length ≤ tokens.length)
      (others : ReadsTerms nested rest exprs after) :
      ReadsTerms nested (.symbol .plus :: tokens) (expr :: exprs) after

def sumOf (first : Expr) (others : List Expr) : Expr := others.foldl (Expr.binary .add) first

theorem sum_of_terms {first : Expr} {others : List Expr} {after : List Token}
    (read : term nested tokens = some (first, rest))
    (reads : ReadsTerms nested rest others after) :
    sum nested tokens = some (sumOf first others, after) := by
  rw [sum, leftGrouped, bind_apply, read, Option.bind_some]
  refine grow_of_grows ?_
  clear read
  induction reads generalizing first with
  | stop ends =>
    refine .stop ?_
    have none : _ := ends.bind_eq_none sumOp? fun token last => by
      unfold endsExpression at last
      split at last <;> first | rfl | cases last
    simp [possibly, bind_apply, peek, none, failure_apply]
  | next read shorter others ih =>
    refine .next ?_ (Nat.lt_succ_of_le shorter) ih
    simp [possibly, bind_apply, map_apply, peek, sumOp?, skip, read]

/-! ### Calls -/

/-- An expression with nothing of its own behind it is not taken for a keyword, nor for a named one. -/
theorem second_ne {depth : Nat} {name : Text} {more : List Token} {sign : Symbol}
    (other : sign = .assign ∨ sign = .walrus) (apart : rest.head? ≠ some (.symbol sign)) :
    (Nested.upTo (depth + 1)).expression (.name name :: .symbol sign :: more) ≠
      some (expr, rest) := by
  have stops : (Nested.upTo (depth + 1)).expression (.name name :: .symbol sign :: more) =
      some (.name (nameOf name), .symbol sign :: more) := by
    rcases other with rfl | rfl <;> rfl
  rw [stops]
  rintro same
  cases same
  exact apart rfl

theorem eq_cons_cons {first second : Token} (begins : tokens.head? = some first)
    (follows : tokens[1]? = some second) : ∃ more, tokens = first :: second :: more := by
  obtain ⟨rest, rfl⟩ := List.head?_eq_some_iff.mp begins
  rw [List.getElem?_cons_succ, ← List.head?_eq_getElem?] at follows
  obtain ⟨more, rfl⟩ := List.head?_eq_some_iff.mp follows
  exact ⟨more, rfl⟩

theorem namedExpression_ends {depth : Nat}
    (read : (Nested.upTo (depth + 1)).expression tokens = some (expr, rest)) (ends : Ends rest) :
    namedExpression (Nested.upTo (depth + 1)).expression tokens = some (expr, rest) := by
  simp only [namedExpression, bind_apply, peek, peekSecond, Option.bind_some]
  generalize begins : tokens.head? = first
  generalize follows : tokens[1]? = second
  split
  next name =>
    obtain ⟨more, rfl⟩ := eq_cons_cons begins follows
    exact absurd read (second_ne (.inr rfl) (ends.head?_ne _ rfl))
  next =>
    have last : reject (.symbol .walrus) rest = some ((), rest) := reject_other (ends.head?_ne _ rfl)
    simp only [bind_apply, read, Option.bind_some, last, pure_apply]

theorem argument_ends {depth : Nat}
    (read : (Nested.upTo (depth + 1)).expression tokens = some (expr, rest)) (ends : Ends rest)
    (apart : rest.head? ≠ some (.symbol .assign)) :
    argument (Nested.upTo (depth + 1)) .positional tokens =
      some ((.positional expr, .positional), rest) := by
  simp only [argument, bind_apply, peek, peekSecond, Option.bind_some]
  generalize begins : tokens.head? = first
  generalize follows : tokens[1]? = second
  split
  next =>
    obtain ⟨more, rfl⟩ : ∃ more, tokens = .symbol .doubleStar :: more :=
      List.head?_eq_some_iff.mp begins
    cases read
  next name =>
    obtain ⟨more, rfl⟩ := eq_cons_cons begins follows
    exact absurd read (second_ne (.inl rfl) apart)
  next =>
    obtain ⟨more, rfl⟩ : ∃ more, tokens = .symbol .star :: more :=
      List.head?_eq_some_iff.mp begins
    cases read
  next =>
    have positional : (guard True : Reader Unit) tokens = some ((), tokens) := rfl
    have last : reject (.symbol .assign) rest = some ((), rest) := reject_other apart
    simp only [bind_apply, positional, namedExpression_ends read ends, Option.bind_some, last,
      pure_apply]

theorem ends_closeParen (rest : List Token) : Ends (.symbol .closeParen :: rest) := by
  intro token first
  cases first
  rfl

theorem clausesFollow_ends (ends : Ends rest) : clausesFollow rest = some (false, rest) := by
  cases rest with
  | nil => rfl
  | cons token more =>
    have last := ends token rfl
    unfold endsExpression at last
    split at last <;> first | rfl | cases last

/-- Behind the first of several arguments come the others. -/
theorem arguments_positional {nested : Nested}
    (first : argument nested .positional tokens = some ((.positional expr, .positional), rest))
    (opened : tokens.head? ≠ some (.symbol .closeParen)) (ends : Ends rest) :
    arguments nested true tokens =
      (do
        let (found, _) ← grow (moreArguments nested) ([.positional expr], .positional)
        let _ ← acceptSymbol .comma
        symbol .closeParen
        return found.reverse : Reader (List (Argument Expr))) rest := by
  have present : acceptSymbol .closeParen tokens = some (false, tokens) := accept_other opened
  simp only [arguments, bind_apply, present, Option.bind_some, Bool.false_eq_true, if_false, first,
    clausesFollow_ends ends]

theorem arguments_closed {nested : Nested}
    (first : argument nested .positional tokens =
      some ((.positional expr, .positional), .symbol .closeParen :: rest))
    (opened : tokens.head? ≠ some (.symbol .closeParen)) :
    arguments nested true tokens = some ([.positional expr], rest) := by
  have more : moreArguments nested ([.positional expr], .positional) (.symbol .closeParen :: rest) =
      some (none, .symbol .closeParen :: rest) := by
    simp [moreArguments, possibly, bind_apply, symbol, token]
  rw [arguments_positional first opened (ends_closeParen rest), bind_apply, grow_stop more]
  simp [bind_apply, map_apply, acceptSymbol, accept, symbol_apply]

theorem arguments_single {depth : Nat}
    (read : (Nested.upTo (depth + 1)).expression tokens = some (expr, .symbol .closeParen :: rest)) :
    arguments (Nested.upTo (depth + 1)) true tokens = some ([.positional expr], rest) := by
  refine arguments_closed (argument_ends read (ends_closeParen rest) (by simp)) fun first => ?_
  obtain ⟨more, rfl⟩ := List.head?_eq_some_iff.mp first
  cases read

theorem trailer_call (object : Expr) {depth : Nat}
    (read : (Nested.upTo (depth + 1)).expression tokens = some (expr, .symbol .closeParen :: rest)) :
    trailer (Nested.upTo (depth + 1)) object (.symbol .openParen :: tokens) =
      some (some (.call object [.positional expr]), rest) := by
  simp [trailer, acceptSymbol, accept, bind_apply, map_apply, arguments_single read]

end Stencil.Script.Grammar
