import Stencil.Proofs.Script.Operand
import Stencil.Proofs.Script.Outline

/-!
Sums of operands, and the line of code that puts out the value of one.
-/

set_option autoImplicit false

namespace Stencil.Script

open Lexer Reader Grammar

/-- An operand with its words and with what it is read as. -/
structure Addend where
  code : Text
  tokens : List Token
  expr : Expr

/-- An operand that is read alike wherever it stands in a sum in brackets. -/
structure Addend.Legible (reach : Nat) (one : Addend) : Prop where
  words : ∀ (indents : List Width) (blank : Bool) (rest : Text), rest.head? ≠ some '\'' →
    words ⟨indents, [.closeParen]⟩ (.inLine blank) (one.code ++ rest) =
      (words ⟨indents, [.closeParen]⟩ (.inLine false) rest).map (one.tokens ++ ·)
  begins : ∀ rest, Begins (one.tokens ++ rest)
  term : ∀ rest, OperandEnds rest →
    term (Nested.upTo reach) (one.tokens ++ rest) = some (one.expr, rest)

/-- An operand that fits into a line as well. -/
structure Addend.Fits (reach : Nat) (one : Addend) : Prop extends Addend.Legible reach one where
  clean : Text.Clean one.code

theorem ends_newline (rest : List Token) : Ends (.newline :: rest) := by
  intro token first
  cases first
  rfl

/-! ### Sums -/

def sumCode (first : Addend) (others : List Addend) : Text :=
  first.code ++ others.flatMap fun one => " + ".toList ++ one.code

def sumTokens (first : Addend) (others : List Addend) : List Token :=
  first.tokens ++ others.flatMap fun one => .symbol .plus :: one.tokens

def sumExpr (first : Addend) (others : List Addend) : Expr :=
  sumOf first.expr (others.map Addend.expr)

theorem sumCode_eq (first : Addend) (others : List Addend) :
    Text.join " + ".toList ((first :: others).map Addend.code) = sumCode first others := by
  rw [Text.join, List.intercalate, sumCode]
  induction others generalizing first with
  | nil => simp
  | cons next others ih =>
    rw [List.map_cons, List.map_cons, List.intersperse_cons_cons, List.flatten_cons,
      List.flatten_cons, List.flatMap_cons, ← List.map_cons, ih next, List.append_assoc]

variable {reach : Nat} {first : Addend} {others : List Addend}

theorem legible_of_fits (fits : ∀ one ∈ first :: others, one.Fits reach) :
    ∀ one ∈ first :: others, one.Legible reach :=
  fun one member => (fits one member).toLegible

theorem clean_sumCode (fits : ∀ one ∈ first :: others, one.Fits reach) :
    Text.Clean (sumCode first others) := by
  refine Text.clean_append (fits first (List.mem_cons_self ..)).clean fun c member => ?_
  obtain ⟨one, inside, written⟩ := List.mem_flatMap.mp member
  exact Text.clean_append (by decide) (fits one (List.mem_cons_of_mem _ inside)).clean c written

theorem words_sum (legible : ∀ one ∈ first :: others, one.Legible reach) (indents : List Width)
    (blank : Bool) {rest : Text} (apart : rest.head? ≠ some '\'') :
    words ⟨indents, [.closeParen]⟩ (.inLine blank) (sumCode first others ++ rest) =
      (words ⟨indents, [.closeParen]⟩ (.inLine false) rest).map (sumTokens first others ++ ·) := by
  have sign (after : Text) :
      words ⟨indents, [.closeParen]⟩ (.inLine false) (" + ".toList ++ after) =
        (words ⟨indents, [.closeParen]⟩ (.inLine false) after).map ([.symbol .plus] ++ ·) :=
    words_steps 3 rfl
  induction others generalizing first blank with
  | nil =>
    simp only [sumCode, sumTokens, List.flatMap_nil, List.append_nil]
    exact (legible first (List.mem_cons_self ..)).words indents blank rest apart
  | cons next others ih =>
    have here := (legible first (List.mem_cons_self ..)).words indents blank
      (" + ".toList ++ (sumCode next others ++ rest)) (by simp)
    have later := ih (fun one member => legible one (List.mem_cons_of_mem _ member)) false
    have shape : sumCode first (next :: others) ++ rest =
        first.code ++ (" + ".toList ++ (sumCode next others ++ rest)) := by
      simp [sumCode]
    rw [shape, here, sign, later]
    simp [sumTokens, Function.comp_def]

theorem operandEnds_others (others : List Addend) {rest : List Token} (ends : Ends rest) :
    OperandEnds ((others.flatMap fun one => .symbol .plus :: one.tokens) ++ rest) := by
  cases others with
  | nil => exact ends.operandEnds
  | cons next others => exact operandEnds_cons rfl

theorem sum_addends (legible : ∀ one ∈ first :: others, one.Legible reach) {rest : List Token}
    (ends : Ends rest) :
    sum (Nested.upTo reach) (sumTokens first others ++ rest) =
      some (sumExpr first others, rest) := by
  have reads : ReadsTerms (Nested.upTo reach)
      ((others.flatMap fun one => .symbol .plus :: one.tokens) ++ rest)
      (others.map Addend.expr) rest := by
    induction others with
    | nil => exact .stop ends
    | cons next others ih =>
      have later := ih fun one member => by
        rcases List.mem_cons.mp member with rfl | member
        · exact legible _ (List.mem_cons_self ..)
        · exact legible _ (List.mem_cons_of_mem _ (List.mem_cons_of_mem _ member))
      have next_legible := legible next (List.mem_cons_of_mem _ (List.mem_cons_self ..))
      rw [List.flatMap_cons, List.append_assoc, List.cons_append, List.map_cons]
      refine .next (next_legible.term _ (operandEnds_others others ends)) ?_ later
      exact (List.suffix_append _ _).length_le
  rw [sumTokens, List.append_assoc]
  exact sum_of_terms ((legible first (List.mem_cons_self ..)).term _ (operandEnds_others others ends))
    reads

theorem begins_sum (legible : ∀ one ∈ first :: others, one.Legible reach) (rest : List Token) :
    Begins (sumTokens first others ++ rest) := by
  rw [sumTokens, List.append_assoc]
  exact (legible first (List.mem_cons_self ..)).begins _

theorem expression_sum (legible : ∀ one ∈ first :: others, one.Legible reach) {rest : List Token}
    (ends : Ends rest) :
    (Nested.upTo (reach + 1)).expression (sumTokens first others ++ rest) =
      some (sumExpr first others, rest) :=
  expression_of_sum (begins_sum legible rest) (sum_addends legible ends) ends

/-! ### Calls of one argument -/

theorem primary_call {name : Text} {tokens rest : List Token} {expr : Expr}
    (read : (Nested.upTo (reach + 1)).expression tokens = some (expr, .symbol .closeParen :: rest))
    (shorter : rest.length < tokens.length) (ends : OperandEnds rest) :
    primary (Nested.upTo (reach + 1)) (.name name :: .symbol .openParen :: tokens) =
      some (.call (.name (nameOf name)) [.positional expr], rest) := by
  have grown : Grows (trailer (Nested.upTo (reach + 1))) (.name (nameOf name))
      (.symbol .openParen :: tokens) (.call (.name (nameOf name)) [.positional expr]) rest :=
    .next (trailer_call _ read) (Nat.lt_succ_of_lt shorter) (.stop (trailer_none _ ends))
  rw [primary, bind_apply]
  exact grow_of_grows grown

/-! ### Lines -/

def appendCall (expr : Expr) : Expr :=
  .call (.attributeOf (.name outputName) "append".toList) [.positional expr]

def appendTokens (tokens : List Token) : List Token :=
  [Token.name outputName, .symbol .dot, .name "append".toList, .symbol .openParen] ++ tokens ++
    [Token.symbol .closeParen]

/-- A line that begins with a name is a statement by itself, unless the name is that of a match. -/
theorem statement_of_expression {nested : Nested} {word : Text} {tokens rest : List Token}
    {found : Stmt} (statements : Reader (List Stmt)) (bound : Nat) (other : word ≠ matchName)
    (read : expressionStatement nested (.name word :: tokens) = some (found, .newline :: rest)) :
    Grammar.statement nested statements bound (.name word :: tokens) = some ([found], rest) := by
  have simple : simpleStatement nested (.name word :: tokens) = some (found, .newline :: rest) := by
    rw [simpleStatement, bind_apply, peek, Option.bind_some, List.head?_cons]
    exact read
  rw [Grammar.statement, bind_apply, peek, Option.bind_some, List.head?_cons]
  simp only [if_neg other]
  rw [simpleStatements, bind_apply, separated_single simple (by simp)]
  rfl

theorem words_appending (legible : ∀ one ∈ first :: others, one.Legible reach)
    (indents : List Width) (rest : Text) :
    words ⟨indents, []⟩ (.inLine false) (appending (sumCode first others) ++ '\n' :: rest) =
      (words ⟨indents, []⟩ .lineStart rest).map
        (appendTokens (sumTokens first others) ++ .newline :: ·) := by
  have shape : appending (sumCode first others) ++ '\n' :: rest =
      "_output.append(".toList ++ (sumCode first others ++ ')' :: '\n' :: rest) := by
    simp only [appending, List.append_assoc]
    rfl
  have opened (after : Text) :
      words ⟨indents, []⟩ (.inLine false) ("_output.append(".toList ++ after) =
        (words ⟨indents, [.closeParen]⟩ (.inLine false) after).map
          ([.name outputName, .symbol .dot, .name "append".toList, .symbol .openParen] ++ ·) :=
    words_steps 4 rfl
  have closed :
      words ⟨indents, [.closeParen]⟩ (.inLine false) (')' :: '\n' :: rest) =
        (words ⟨indents, []⟩ .lineStart rest).map ([.symbol .closeParen, .newline] ++ ·) :=
    words_steps 2 rfl
  rw [shape, opened, words_sum legible indents false (by simp), closed]
  simp [appendTokens, Function.comp_def]

theorem spoken_appending (fits : ∀ one ∈ first :: others, one.Fits reach) :
    Spoken (appending (sumCode first others)) (appendTokens (sumTokens first others)) where
  clean := Text.clean_append (Text.clean_append (by decide) (clean_sumCode fits)) (by decide)
  solid := rfl
  fresh := fresh_cons.mpr rfl
  words := words_appending (legible_of_fits fits)

theorem primary_appending (legible : ∀ one ∈ first :: others, one.Legible reach) (rest : List Token) :
    primary (Nested.upTo (reach + 1))
        (appendTokens (sumTokens first others) ++ .newline :: rest) =
      some (appendCall (sumExpr first others), .newline :: rest) := by
  have shape : appendTokens (sumTokens first others) ++ .newline :: rest =
      .name outputName :: .symbol .dot :: .name "append".toList :: .symbol .openParen ::
        (sumTokens first others ++ .symbol .closeParen :: .newline :: rest) := by
    simp [appendTokens]
  have called := trailer_call (.attributeOf (.name outputName) "append".toList)
    (expression_sum legible (ends_closeParen (.newline :: rest)))
  have grown : Grows (trailer (Nested.upTo (reach + 1))) (.name outputName)
      (.symbol .dot :: .name "append".toList :: .symbol .openParen ::
        (sumTokens first others ++ .symbol .closeParen :: .newline :: rest))
      (appendCall (sumExpr first others)) (.newline :: rest) := by
    refine .next rfl ?_ (.next called ?_ (.stop (trailer_none _ (ends_newline rest).operandEnds)))
    · simp only [List.length_cons]
      omega
    · simp only [List.length_cons, List.length_append]
      omega
  rw [shape, primary, bind_apply]
  exact grow_of_grows grown

theorem readsLine_appending (legible : ∀ one ∈ first :: others, one.Legible reach) :
    ReadsLine (reach + 2) (appendTokens (sumTokens first others))
      [.expression (appendCall (sumExpr first others))] := by
  intro statements bound rest
  have begins : Begins (appendTokens (sumTokens first others) ++ .newline :: rest) :=
    ⟨_, _, rfl, rfl⟩
  have ends := ends_newline rest
  have single := term_of_primary begins (primary_appending legible rest) ends.operandEnds
  have whole : starOr (Nested.upTo (reach + 2)) (Nested.upTo (reach + 2)).expression
      (appendTokens (sumTokens first others) ++ .newline :: rest) =
        some (appendCall (sumExpr first others), .newline :: rest) :=
    expression_of_sum begins (sum_of_terms single (.stop ends)) ends
  have stars : starExpressions (Nested.upTo (reach + 2))
      (appendTokens (sumTokens first others) ++ .newline :: rest) =
        some (appendCall (sumExpr first others), .newline :: rest) := by
    rw [starExpressions, bind_apply, commaList_single whole (by simp)]
    rfl
  have line : expressionStatement (Nested.upTo (reach + 2))
      (appendTokens (sumTokens first others) ++ .newline :: rest) =
        some (.expression (appendCall (sumExpr first others)), .newline :: rest) := by
    simp only [expressionStatement, bind_apply, peek, peekSecond, Option.bind_some, stars]
    rfl
  exact statement_of_expression statements bound (by decide) line

end Stencil.Script
