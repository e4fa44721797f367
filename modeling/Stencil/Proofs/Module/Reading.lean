import Mathlib
import Stencil.Proofs.Module.Code
import Stencil.Proofs.Script.Sum

/-!
Reading the code of a program as a module.
-/

set_option autoImplicit false

namespace Stencil.Script.Module

open Reader Grammar Lexer

variable {rest : List Token} (depth : Nat)

/-! ### Statements that every program has -/

def singleParameter (name : Text) : Parameters Expr :=
  { Parameters.empty with regular := [⟨name, none, none⟩] }

def importStatement : Stmt :=
  .importNames 0 ["html".toList] (.names [⟨["escape".toList], some "_html_escape".toList⟩])

def escapeBody : List Stmt :=
  [.returnValue (some (.call (.name "_html_escape".toList)
    [.positional (.name "text".toList), .keyword "quote".toList (.constant (.bool false))]))]

def escapeStatement : Stmt :=
  .functionDef escapeName (singleParameter "text".toList) none escapeBody [] false

def outputStatement : Stmt := .assign [.name outputName] (.list [])

def selfName : Text := "self".toList

def contextValue : Expr :=
  .subscript (.name "bindings".toList) (.constant (.string (Points.ofText "context".toList)))

def contextStatement (contextType : Text) : Stmt :=
  .annotated (.name selfName) (.constant (.string (Points.ofText contextType)))
    (some contextValue) true

def joinCall : Expr :=
  .call (.attributeOf (.constant (.string (Points.ofText ['\n']))) "join".toList)
    [.positional (.name outputName)]

def returnStatement : Stmt := .returnValue (some joinCall)

def renderBody (contextType : Text) (found : List Stmt) : List Stmt :=
  outputStatement :: contextStatement contextType :: (found ++ [returnStatement])

def renderStatement (contextType : Text) (found : List Stmt) : Stmt :=
  .functionDef "render".toList (singleParameter "bindings".toList) none
    (renderBody contextType found) [] false

def module (contextType : Text) (found : List Stmt) : List Stmt :=
  [importStatement, escapeStatement, renderStatement contextType found]

theorem statement_import (statements : Reader (List Stmt)) (bound : Nat) (rest : List Token) :
    Grammar.statement (Nested.upTo depth) statements bound (importTokens ++ rest) =
      some ([importStatement], rest) := rfl

theorem statement_escape (bound : Nat) (rest : List Token) :
    Grammar.statement (Nested.upTo (depth + 3))
        (statementsUpTo (Nested.upTo (depth + 3)) (bound + 1)) (bound + 2) (escapeTokens ++ rest) =
      some ([escapeStatement], rest) := by cbv

theorem statement_output (statements : Reader (List Stmt)) (bound : Nat) (rest : List Token) :
    Grammar.statement (Nested.upTo (depth + 3)) statements bound (outputTokens ++ rest) =
      some ([outputStatement], rest) := rfl

theorem statement_return (statements : Reader (List Stmt)) (bound : Nat) (rest : List Token) :
    Grammar.statement (Nested.upTo (depth + 3)) statements bound (returnTokens ++ rest) =
      some ([returnStatement], rest) := by cbv

/-- The type of the context is a literal like those of the entries. -/
theorem expression_type (contextType : Text) (rest : List Token) :
    (Nested.upTo (depth + 1)).expression (typeQuotation contextType :: .symbol .assign :: rest) =
      some (.constant (.string (Points.ofText contextType)), .symbol .assign :: rest) := by
  have ends : Ends (.symbol .assign :: rest) := by
    intro token first
    cases first
    rfl
  have begins := begins_quotation (Text.quotedBody contextType) (.symbol .assign :: rest)
  have read : primary (Nested.upTo depth) (typeQuotation contextType :: .symbol .assign :: rest) =
      some (.constant (.string (Points.ofText contextType)), .symbol .assign :: rest) :=
    primary_quotation (Text.unescape?_quotedBody contextType) ends.operandEnds
  exact expression_of_sum begins
    (sum_of_terms (term_of_primary begins read ends.operandEnds) (.stop ends)) ends

theorem statement_context (statements : Reader (List Stmt)) (bound : Nat) (contextType : Text)
    (rest : List Token) :
    Grammar.statement (Nested.upTo (depth + 3)) statements bound
        ((selfTokens ++ typeQuotation contextType :: contextTokens) ++ rest) =
      some ([contextStatement contextType], rest) := by
  have shape : (selfTokens ++ typeQuotation contextType :: contextTokens) ++ rest =
      .name selfName :: .symbol .colon :: typeQuotation contextType ::
        .symbol .assign :: (contextTokens.tail ++ rest) := rfl
  have target (tail : List Token) :
      starExpressions (Nested.upTo (depth + 3)) (.name selfName :: .symbol .colon :: tail) =
        some (.name selfName, .symbol .colon :: tail) := rfl
  have single (tail : List Token) :
      (guard (isSingleTarget (.name selfName) = true) : Reader Unit) tail = some ((), tail) := rfl
  have typing := expression_type (depth + 2) contextType (contextTokens.tail ++ rest)
  have value : assignedValue (Nested.upTo (depth + 3)) (contextTokens.tail ++ rest) =
      some (contextValue, .newline :: rest) := by cbv
  rw [shape]
  refine statement_of_expression statements bound (by decide) ?_
  simp only [expressionStatement, bind_apply, peek, peekSecond, Option.bind_some, target,
    List.head?_cons, skip, single, List.drop_succ_cons, List.drop_zero, typing, acceptSymbol,
    accept_same, if_true, value]
  rfl

/-! ### Blocks -/

variable {reach height : Nat} {spoken : List Token} {found : List Stmt}
  {statements : List Statement}

theorem statements_body (reads : Reads (depth + 3) height statements spoken found) (bound : Nat)
    (enough : height ≤ bound) (contextType : Text) (rest : List Token) :
    statementsUpTo (Nested.upTo (depth + 3)) (bound + 1)
        (bodyTokens contextType spoken ++ .dedent :: rest) =
      some (renderBody contextType found, .dedent :: rest) := by
  have fresh : Fresh (returnTokens ++ .dedent :: rest) := fresh_cons.mpr rfl
  have last : ReadsMany (Grammar.statement (Nested.upTo (depth + 3))
      (statementsUpTo (Nested.upTo (depth + 3)) bound) (bound + 1))
      (returnTokens ++ .dedent :: rest) [[returnStatement]] (.dedent :: rest) :=
    .next (statement_return depth _ _ _) (by simp [returnTokens])
      (.stop (statement_dedent (Nat.succ_pos _) _ _ _))
  obtain ⟨values, same, middle⟩ := reads.readsMany (Nat.succ_pos _) _ _ enough fresh last
  have all := many1_of_reads
    (statement_output depth (statementsUpTo (Nested.upTo (depth + 3)) bound) (bound + 1) _)
    (.next (statement_context depth _ _ contextType _)
      (by simp only [selfTokens, contextTokens, List.length_append, List.length_cons]; omega)
      middle)
  have shape : bodyTokens contextType spoken ++ .dedent :: rest =
      outputTokens ++ ((selfTokens ++ typeQuotation contextType :: contextTokens) ++
        (spoken ++ (returnTokens ++ .dedent :: rest))) := by
    simp [bodyTokens]
  rw [shape, statementsUpTo, bind_apply, all]
  simp [pure_apply, renderBody, same]

theorem colonBlock_indented {nested : Nested} {statements : Reader (List Stmt)}
    {body : List Token} {found : List Stmt} (read : statements body = some (found, .dedent :: rest)) :
    colonBlock nested statements (.symbol .colon :: .newline :: .indent :: body) =
      some (found, rest) := by
  simp [colonBlock, block, bind_apply, symbol_apply, accept_same, token, map_apply, read]

/-- A function's definition, behind the word for it. -/
theorem statement_function {nested : Nested} {statements : Reader (List Stmt)} {bound : Nat}
    {letters : Text} (tokens : List Token) {body : List Token} {given : Parameters Expr} {inside : List Stmt}
    (header : ∀ tail, enclosed .openParen .closeParen (parameters nested true .closeParen)
      (tokens ++ .symbol .colon :: tail) = some (given, .symbol .colon :: tail))
    (read : statements body = some (inside, .dedent :: rest)) :
    Grammar.statement nested statements bound
        (.keyword .defWord :: .name letters :: (tokens ++ .symbol .colon :: .newline :: .indent ::
          body)) =
      some ([.functionDef (nameOf letters) given none inside [] false], rest) := by
  have block : colonBlock nested statements (.symbol .colon :: .newline :: .indent :: body) =
      some (inside, rest) := colonBlock_indented read
  have arrow (tail : List Token) :
      acceptSymbol .arrow (.symbol .colon :: tail) = some (false, .symbol .colon :: tail) := rfl
  have defined (tail : List Token) : functionDefinition nested statements [] false
      (.keyword .defWord :: .name letters :: tail) =
        (enclosed .openParen .closeParen (parameters nested true .closeParen) tail).bind
          fun found => (do
            let returns ← possiblyAfter (← acceptSymbol .arrow) nested.expression
            return .functionDef (nameOf letters) found.1 returns (← colonBlock nested statements)
              [] false : Reader Stmt) found.2 := by
    simp only [functionDefinition, bind_apply, keyword, token, if_true, Option.bind_some, name]
  have plain (tail : List Token) : acceptKeyword .asyncWord (.keyword .defWord :: tail) =
      some (false, .keyword .defWord :: tail) := rfl
  have noClass (tail : List Token) : nextIs (.keyword .classWord) (.keyword .defWord :: tail) =
      some (false, .keyword .defWord :: tail) := rfl
  simp only [Grammar.statement, bind_apply, peek, List.head?_cons, Option.bind_some, definition,
    plain, noClass, Bool.false_eq_true, if_false, defined, header, arrow, possiblyAfter, block,
    pure_apply]

theorem statement_render (reach : Nat) {body : List Token} {statements : Reader (List Stmt)}
    {contextType : Text} {found : List Stmt} (bound : Nat)
    (read : statements body = some (renderBody contextType found, .dedent :: rest)) :
    Grammar.statement (Nested.upTo (reach + 1)) statements bound (headerTokens ++ body) =
      some ([renderStatement contextType found], rest) :=
  statement_function [.symbol .openParen, .name "bindings".toList, .symbol .closeParen]
    (fun _ => rfl) read

/-! ### The module -/

theorem parseModule_code {program : Program}
    (reads : Reads (program.code.length + 1) height program.body spoken found)
    (room : 1 + height ≤ maximalIndents) :
    parseModule program.code = some (module program.contextType found) := by
  have long := length_code reads
  have some_room : 2 ≤ maximalIndents := by decide
  have words := statementTokens_code reads room
  obtain ⟨depth, size⟩ : ∃ depth, program.code.length + 1 = depth + 3 :=
    Nat.exists_eq_add_of_le' (Nat.succ_le_succ (Nat.le_trans some_room long))
  rw [size] at reads
  have body := statements_body depth reads (depth + 1) (by omega) program.contextType []
  have read := many1_of_reads (statement_import (depth + 3)
    (statementsUpTo (Nested.upTo (depth + 3)) (depth + 2)) (depth + 3) _)
    (.next (statement_escape depth (depth + 1) _)
      (by simp only [escapeTokens, List.length_append, List.length_cons]; omega)
      (.next (statement_render (depth + 2) (depth + 3) body)
        (by simp only [headerTokens, List.length_append, List.length_cons, List.length_nil]; omega)
        (.stop (statement_nil (Nat.succ_pos _) _ _))))
  have shape : tokens program.contextType spoken = importTokens ++ (escapeTokens ++
      (headerTokens ++ (bodyTokens program.contextType spoken ++ [Token.dedent]))) := by
    simp [tokens]
  have whole : statementsUpTo (Nested.upTo (depth + 3)) (depth + 3)
      (tokens program.contextType spoken) = some (module program.contextType found, []) := by
    rw [shape, statementsUpTo, bind_apply, read]
    rfl
  have present : tokens program.contextType spoken ≠ [] := List.cons_ne_nil _ _
  simp [parseModule, words, present, size, whole, guard]

end Stencil.Script.Module
