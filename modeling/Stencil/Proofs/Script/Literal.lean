import Stencil.Proofs.Script.Margin
import Stencil.Proofs.Script.Operand
import Stencil.Script.Literal

/-!
A string between two double quotes is the literal of a text, or of nothing: what stands in its
quotes is never taken for a collection.
-/

set_option autoImplicit false

namespace Stencil.Script

namespace Grammar

open Reader Lexer

variable {nested : Nested} {tokens : List Token}

theorem bind_none {α β : Type} {reader : Reader α} {next : α → Reader β}
    (failed : reader tokens = none) : (reader >>= next) tokens = none := by
  rw [bind_apply, failed]
  rfl

theorem expression_none (begins : Begins tokens) (failed : primary nested tokens = none) :
    expression nested tokens = none := by
  have plain : (tokens.head? == some (Token.keyword .lambdaWord)) = false := by
    simpa using begins.head?_ne (.keyword .lambdaWord) rfl
  have failedFactor : factor nested tokens = none := by
    simp only [factor, power, awaited, acceptSymbol, acceptKeyword, bind_apply, Option.bind_some,
      accept_other (begins.head?_ne (.symbol .plus) rfl),
      accept_other (begins.head?_ne (.symbol .minus) rfl),
      accept_other (begins.head?_ne (.symbol .tilde) rfl),
      accept_other (begins.head?_ne (.keyword .awaitWord) rfl), Bool.false_eq_true,
      if_false, failed, Option.bind_none]
  have failedBitOr : bitOr nested tokens = none :=
    bind_none (bind_none (bind_none (bind_none (bind_none (bind_none failedFactor)))))
  have failedInversion : inversion nested tokens = none := by
    rw [inversion, bind_apply, acceptKeyword,
      accept_other (begins.head?_ne (.keyword .notWord) rfl)]
    exact bind_none failedBitOr
  rw [expression, bind_apply, nextIs, Option.bind_some]
  simp only [plain, Bool.false_eq_true, if_false]
  exact bind_none (bind_none (bind_none (bind_none (bind_none failedInversion))))

end Grammar

open Lexer

/-- Behind a backslash a line break of two characters counts as one. -/
theorem isInside_unifyBreaks {quote : Char} (other : quote ≠ '\n') (text : Text) :
    (Text.isInside quote text = true → Text.isInside quote (unifyBreaks text) = true) ∧
      (Text.isInside quote ('\\' :: text) = true →
        Text.isInside quote ('\\' :: unifyBreaks text) = true) := by
  fun_induction unifyBreaks text with
  | case1 => exact ⟨id, id⟩
  | case2 rest ih =>
    have feed (more : Text) : Text.isInside quote ('\n' :: more) =
        ('\n' != quote && Text.isInside quote more) := Text.isInside_cons (by decide)
    refine ⟨fun inside => ?_, fun inside => ?_⟩
    · rw [Text.isInside_cons (by decide), feed] at inside
      rw [feed]
      simp only [Bool.and_eq_true] at inside ⊢
      exact ⟨inside.2.1, ih.1 inside.2.2⟩
    · rw [Text.isInside, feed, Bool.and_eq_true] at inside
      exact ih.1 inside.2
  | case3 rest lone ih =>
    refine ⟨fun inside => ?_, fun inside => ?_⟩
    · rw [Text.isInside_cons (by decide), Bool.and_eq_true] at inside
      rw [Text.isInside_cons (by decide), Bool.and_eq_true, bne_iff_ne]
      exact ⟨other.symm, ih.1 inside.2⟩
    · exact ih.1 inside
  | case4 c rest _ _ ih =>
    refine ⟨fun inside => ?_, fun inside => ?_⟩
    · by_cases same : c = '\\'
      next =>
        subst same
        exact ih.2 inside
      next =>
        rw [Text.isInside_cons same, Bool.and_eq_true] at inside ⊢
        exact ⟨inside.1, ih.1 inside.2⟩
    · exact ih.1 inside

theorem expressionTokens_quotes {content : Text} (quotes : Text.Quotes '"' content) :
    expressionTokens content = none ∨
      ∃ body, expressionTokens content = some [plainQuotation body] := by
  obtain ⟨body, rfl, inside⟩ := quotes
  have unified : unifyBreaks ('"' :: body ++ ['"']) = '"' :: (unifyBreaks body ++ ['"']) := by
    rw [List.cons_append, unifyBreaks_cons _ (by decide), unifyBreaks_append _ _ (by decide)]
    rfl
  have start := words_lineStart (c := '"') rfl (unifyBreaks body ++ ['"']) [] 0
  rw [expressionTokens, scanAll_eq, unified]
  simp only [Text.spaces, List.replicate_zero, List.nil_append] at start
  rw [start]
  have kept := (isInside_unifyBreaks (by decide) body).1 inside
  have apart : ([] : Text).head? ≠ some '"' := by simp
  rcases words_quotation [] [] false rfl kept apart with found | ⟨_, missing⟩
  · right
    refine ⟨unifyBreaks body, ?_⟩
    simp [adjust, State.width, Width.zero, found, words_nil]
  · left
    simp [adjust, State.width, Width.zero, missing]

section Whole

variable {source : Text} {tokens : List Token}

/-- An operand that stands alone is the whole expression. -/
theorem parseExpression_of_primary {expr : Expr} (found : expressionTokens source = some tokens)
    (begins : Grammar.Begins tokens)
    (read : Grammar.primary (Nested.upTo source.length) tokens = some (expr, [])) :
    parseExpression source = some expr := by
  have ends : Grammar.Ends [] := fun token first => nomatch first
  have outer : (Nested.upTo (source.length + 1)).expression =
      Grammar.expression (Nested.upTo source.length) := rfl
  have term := Grammar.term_of_primary begins read ends.operandEnds
  have whole := Reader.commaList_single (Grammar.expression_of_sum begins
    (Grammar.sum_of_terms term (.stop ends)) ends) (by simp)
  simp only [parseExpression, found, outer, whole, Option.bind_eq_bind, Option.bind_some]
  rfl

theorem parseExpression_eq_none (found : expressionTokens source = some tokens)
    (begins : Grammar.Begins tokens)
    (failed : Grammar.primary (Nested.upTo source.length) tokens = none) :
    parseExpression source = none := by
  have outer : (Nested.upTo (source.length + 1)).expression =
      Grammar.expression (Nested.upTo source.length) := rfl
  have none : Reader.commaList (Grammar.expression (Nested.upTo source.length)) tokens = none :=
    Grammar.bind_none (Grammar.bind_none (Grammar.expression_none begins failed))
  simp [parseExpression, found, outer, none]

end Whole

/-- A string that stands alone is what its inside means. -/
theorem parseExpression_quotation {content body : Text} {points : Points}
    (found : expressionTokens content = some [plainQuotation body])
    (meant : Escape.unescape? body = some points) :
    parseExpression content = some (.constant (.string points)) :=
  parseExpression_of_primary found (Grammar.begins_quotation body [])
    (Grammar.primary_quotation meant fun _ first => nomatch first)

theorem parseExpression_quotes {content : Text} (quotes : Text.Quotes '"' content) :
    parseExpression content = none ∨
      ∃ points, parseExpression content = some (.constant (.string points)) := by
  rcases expressionTokens_quotes quotes with missing | ⟨body, found⟩
  · exact .inl (by simp [parseExpression, missing])
  · cases meant : Escape.unescape? body with
    | none =>
      have failed : Grammar.primary (Nested.upTo content.length) [plainQuotation body] = none := by
        rw [Grammar.primary, Reader.bind_apply, Grammar.atom_quotation body rfl, meant]
        rfl
      exact .inl (parseExpression_eq_none found (Grammar.begins_quotation body []) failed)
    | some points => exact .inr ⟨points, parseExpression_quotation found meant⟩

theorem literal_of_quotes {content : Text} (quotes : Text.Quotes '"' content) :
    literal content = .error .malformed ∨
      ∃ points, literal content = .ok (.ofPoints points) := by
  have start : content.dropWhile Text.isIndent = content := by
    obtain ⟨body, rfl, _⟩ := quotes
    rfl
  rw [literal, start]
  by_cases nul : content.contains '\x00' = true
  next => exact .inl (if_pos nul)
  next =>
    simp only [nul, Bool.false_eq_true, if_false]
    rcases parseExpression_quotes quotes with missing | ⟨points, found⟩
    · exact .inl (by rw [missing])
    · exact .inr ⟨points, by rw [found]; rfl⟩

end Stencil.Script
