import Stencil.Fragment
import Stencil.Proofs.Locality.Ending
import Stencil.Proofs.Locality.Expression
import Stencil.Proofs.Script.Kinds
import Stencil.Proofs.Script.Sum

/-!
Code of a single expression that stands between brackets. It may go over several lines: the layout of
these is gone there, its other words stay, and it is read as the expression that it is by itself.
-/

set_option autoImplicit false

namespace Stencil.Script

open Lexer Reader Grammar

/-- The expression that code is by itself, with no comma behind it. Blanks before it do not count. -/
def readExpression (code : Text) : Option Expr := do
  let tokens ← expressionTokens (code.dropWhile Text.isIndent)
  let (value, rest) ← (Nested.upTo (code.length + 1)).expression tokens
  guard (rest.all (· == .newline))
  return value

variable {code : Text} {tree : Expr}

theorem unstarred_readExpression (read : readExpression code = some tree) :
    Check.isStarred tree = false := by
  obtain ⟨tokens, -, read⟩ := Option.bind_eq_some_iff.mp read
  obtain ⟨⟨value, rest⟩, found, read⟩ := Option.bind_eq_some_iff.mp read
  obtain ⟨⟨⟩, -, same⟩ := Option.bind_eq_some_iff.mp read
  cases same
  exact unstarred_upTo _ found

/-- The words of a single expression, in front of the ends of lines, and what they are read as. -/
theorem words_of_expression (read : readExpression code = some tree) :
    ∃ inside behind, expressionTokens (code.dropWhile Text.isIndent) = some (inside ++ behind) ∧
      Settles [] inside ∧ withoutLayout behind = [] ∧
      ∀ reach rest, code.length < reach → Border rest →
        (Nested.upTo reach).expression (inside ++ rest) = some (tree, rest) := by
  obtain ⟨tokens, lexed, read⟩ := Option.bind_eq_some_iff.mp read
  obtain ⟨⟨value, rest⟩, found, read⟩ := Option.bind_eq_some_iff.mp read
  obtain ⟨⟨⟩, ended, same⟩ := Option.bind_eq_some_iff.mp read
  cases same
  have margin : tokens.head? ≠ some .indent := by
    intro first
    obtain ⟨more, rfl⟩ := List.head?_eq_some_iff.mp first
    cases found
  obtain ⟨inside, behind, rfl, settles, border, light, -⟩ :=
    words_outmost ((scanAll_eq _).symm.trans lexed) margin
  have short : weight inside ≤ code.length :=
    Nat.le_trans light (Nat.le_trans (length_unifyBreaks _) (List.dropWhile_suffix _).length_le)
  have feeds : ∀ word ∈ rest, word = .newline := by
    simp only [guard] at ended
    split at ended
    next all => simpa using all
    next => cases ended
  have elsewhere {reach : Nat} {other : List Token} (high : code.length < reach)
      (border' : Border other) : rest = behind ∧
        (Nested.upTo reach).expression (inside ++ other) = some (tree, other) := by
    have same := (matches_upTo (code.length + 1) reach (Nat.le_refl _) high).expression
    have agree := same [] inside behind other settles border border' (Nat.lt_succ_of_le short)
    rw [found] at agree
    generalize heard : (Nested.upTo reach).expression (inside ++ other) = again at agree
    cases agree with
    | read _ taken left _ _ settled =>
      cases left with
      | nil => exact ⟨rfl, rfl⟩
      | cons word more =>
        -- only the ends of lines are left, and none of those is settled
        have follows := settled.first word rfl
        rw [feeds word (List.mem_append_left _ (List.mem_cons_self ..))] at follows
        cases follows
  refine ⟨inside, behind, lexed, settles, ?_, fun reach other high border' => (elsewhere high border').2⟩
  obtain ⟨rfl, -⟩ := elsewhere (Nat.lt_succ_self code.length) border_nil
  exact List.filter_eq_nil_iff.mpr fun word member => by simp [feeds word member]

/-! ### In brackets -/

theorem unifyBreaks_indent {text : Text} :
    unifyBreaks text = text.takeWhile Text.isIndent ++ unifyBreaks (text.dropWhile Text.isIndent) := by
  induction text with
  | nil => rfl
  | cons c rest ih =>
    by_cases gap : Text.isIndent c = true
    next =>
      have plain : c ≠ '\r' := by
        rintro rfl
        cases gap
      rw [unifyBreaks_cons rest plain, ih, List.takeWhile_cons_of_pos gap, List.dropWhile_cons_of_pos gap]
      rfl
    next => rw [List.takeWhile_cons_of_neg gap, List.dropWhile_cons_of_neg gap, List.nil_append]

theorem words_indent {state : State} {blank : Bool} (text rest : Text) :
    words state (.inLine blank) (text.takeWhile Text.isIndent ++ rest) =
      words state (.inLine blank) rest := by
  induction text with
  | nil => rfl
  | cons c text ih =>
    by_cases gap : Text.isIndent c = true
    next =>
      have blank : isGap c = true := by
        simp only [Text.isIndent, Bool.or_eq_true, beq_iff_eq] at gap
        rcases gap with rfl | rfl <;> rfl
      rw [List.takeWhile_cons_of_pos gap, List.cons_append, words_gap blank, ih]
    next =>
      rw [List.takeWhile_cons_of_neg gap]
      rfl

/-- Code of a single expression that may stand between two brackets: no comment in it hides what closes
them, and there is room for its own. -/
structure Encloses (code : Text) (tree : Expr) : Prop where
  readable : '\x00' ∉ code
  read : readExpression code = some tree
  room : (expressionTokens ("((".toList ++ (code ++ "))".toList))).isSome = true

/-- The words of code between two brackets, and what they are read as. -/
theorem Encloses.words (encloses : Encloses code tree) :
    ∃ inside, (∀ indents blank rest,
        words ⟨indents, [.closeParen, .closeParen]⟩ (.inLine blank) (unifyBreaks code ++ ')' :: rest) =
          (words ⟨indents, [.closeParen, .closeParen]⟩ (.inLine false) (')' :: rest)).map
            (inside ++ ·)) ∧
      ∀ reach rest, code.length < reach → Border rest →
        (Nested.upTo reach).expression (inside ++ rest) = some (tree, rest) := by
  obtain ⟨inside, behind, lexed, settles, layout, read⟩ := words_of_expression encloses.read
  refine ⟨inside, fun indents blank rest => ?_, read⟩
  have room := encloses.room
  have begins (after : Text) : Lexer.words ⟨[], []⟩ .lineStart ("((".toList ++ after) =
      (Lexer.words ⟨[], [.closeParen, .closeParen]⟩ (.inLine false) after).map
        ([.symbol .openParen, .symbol .openParen] ++ ·) := words_steps 3 rfl
  have unified : unifyBreaks ("((".toList ++ (code ++ "))".toList)) =
      "((".toList ++ (unifyBreaks code ++ ')' :: [')']) := by
    have last : unifyBreaks (code ++ ')' :: [')']) = unifyBreaks code ++ unifyBreaks (')' :: [')']) :=
      unifyBreaks_append code [')'] (by decide)
    exact (unifyBreaks_cons _ (by decide)).trans (congrArg _ ((unifyBreaks_cons _ (by decide)).trans
      (congrArg _ last)))
  rw [expressionTokens, unified, scanAll_eq, begins, Option.isSome_map, unifyBreaks_indent,
    List.append_assoc, words_indent] at room
  rw [expressionTokens, scanAll_eq] at lexed
  have bracketed := @words_bracketed _ _ [] [] indents [] [.closeParen, .closeParen] _ _ lexed
    (by simp) (by decide) room rest
  rw [unifyBreaks_indent, List.append_assoc, words_indent, words_blank (by simp) blank false]
  rw [withoutLayout_append, layout, withoutLayout_settles settles, List.append_nil] at bracketed
  exact bracketed

/-! ### A number in brackets -/

namespace Lexer

variable {indents : List Width} {closers : List Symbol} {blank : Bool}

/-- Brackets around a number are words each, as long as there is room for them. -/
theorem words_brackets (count : Nat) (room : count + closers.length < maximalBrackets) (rest : Text) :
    words ⟨indents, closers⟩ (.inLine blank)
        (List.replicate (count + 1) '(' ++ '1' :: (List.replicate (count + 1) ')' ++ rest)) =
      (words ⟨indents, closers⟩ (.inLine false) rest).map
        (List.replicate (count + 1) (Token.symbol .openParen) ++ Token.number (.integer 1) ::
          List.replicate (count + 1) (Token.symbol .closeParen) ++ ·) := by
  have opened (closers : List Symbol) (room : closers.length < maximalBrackets) (blank : Bool)
      (rest : Text) : words ⟨indents, closers⟩ (.inLine blank) ('(' :: rest) =
        (words ⟨indents, .closeParen :: closers⟩ (.inLine false) rest).map
          (.symbol .openParen :: ·) := by
    have next : next? closers ('(' :: rest) = (bracket? closers .openParen).bind
        fun closers => some (.symbol .openParen, 1, closers) := rfl
    have inside : bracket? closers .openParen = some (.closeParen :: closers) := if_pos room
    rw [words_inLine (by decide) (by decide) (by decide), if_neg (by decide), next, inside]
    exact Option.map_eq_bind.symm
  have closed (closers : List Symbol) (rest : Text) :
      words ⟨indents, .closeParen :: closers⟩ (.inLine false) (')' :: rest) =
        (words ⟨indents, closers⟩ (.inLine false) rest).map ([.symbol .closeParen] ++ ·) :=
    words_steps 1 rfl
  induction count generalizing closers blank rest with
  | zero =>
    have number : words ⟨indents, .closeParen :: closers⟩ (.inLine false) ('1' :: ')' :: rest) =
        (words ⟨indents, .closeParen :: closers⟩ (.inLine false) (')' :: rest)).map
          (.number (.integer 1) :: ·) :=
      words_word (by decide) (by decide) (stops_closeParen rest)
        (show next? [] ['1'] = some (.number (.integer 1), 1, []) from rfl) (by rintro _ ⟨⟩)
    have shape : List.replicate (0 + 1) '(' ++ '1' :: (List.replicate (0 + 1) ')' ++ rest) =
        '(' :: '1' :: ')' :: rest := rfl
    rw [shape, opened _ (by omega), number, closed, Option.map_map, Option.map_map]
    rfl
  | succ count ih =>
    have more {α : Type} (one : α) (rest : List α) : List.replicate (count + 2) one ++ rest =
        one :: (List.replicate (count + 1) one ++ rest) := rfl
    have last {α : Type} (one : α) (rest : List α) : List.replicate (count + 2) one ++ rest =
        List.replicate (count + 1) one ++ one :: rest := by
      rw [List.replicate_succ', List.append_assoc, List.singleton_append]
    rw [last ')', more '(', opened _ (by omega), ih (by simp only [List.length_cons]; omega), closed,
      Option.map_map, Option.map_map]
    refine congrArg (Option.map · _) (funext fun found => ?_)
    simp only [Function.comp_apply, List.append_assoc, List.cons_append, List.nil_append,
      more (Token.symbol .openParen), last (Token.symbol .closeParen)]

end Lexer

namespace Grammar

variable {nested : Nested} {tree : Expr} {more rest : List Token} {first : Token}

/-- Words that an expression in brackets, or the number inside of all, begins with. -/
def Opens (token : Token) : Prop := token = .symbol .openParen ∨ ∃ value, token = .number value

theorem parenthesized_single (opens : Opens first)
    (read : nested.expression (first :: more) = some (tree, .symbol .closeParen :: rest))
    (unstarred : Check.isStarred tree = false) :
    parenthesized nested (first :: more) = some (tree, .symbol .closeParen :: rest) := by
  have named : starNamed nested (first :: more) = some (tree, .symbol .closeParen :: rest) := by
    rcases opens with rfl | ⟨value, rfl⟩
    all_goals
      simp [starNamed, starOr, acceptSymbol, accept, namedExpression, bind_apply, peek, peekSecond,
        read, reject, nextIs]
      rfl
  have alone : moreItems nested (.symbol .closeParen :: rest) =
      some (([], false), .symbol .closeParen :: rest) := by
    have none : (do symbol .comma; starNamed nested : Reader Expr) (.symbol .closeParen :: rest) =
      none := rfl
    rw [moreItems, bind_apply, many_stop none]
    rfl
  have shut : ((first :: more).head? == some (.symbol .closeParen)) = false := by
    rcases opens with rfl | ⟨value, rfl⟩ <;> rfl
  have plain : ((first :: more).head? == some (.keyword .yieldWord)) = false := by
    rcases opens with rfl | ⟨value, rfl⟩ <;> rfl
  have clauses : clausesFollow (.symbol .closeParen :: rest) =
      some (false, .symbol .closeParen :: rest) := rfl
  simp only [parenthesized, nextIs, bind_apply, Option.bind_some, shut, plain, named, clauses, alone,
    Bool.false_eq_true, if_false, List.isEmpty_nil, Bool.not_false, Bool.and_self, if_true]
  cases tree with
  | starred _ => cases unstarred
  | _ => rfl

/-- What opens is an operand, and an expression if nothing of its own is behind it. -/
theorem expression_of_primary (opens : Opens first)
    (read : primary nested (first :: more) = some (tree, rest)) (ends : Ends rest) :
    expression nested (first :: more) = some (tree, rest) := by
  have direct : factor nested (first :: more) = (do
      let base ← primary nested
      if ← acceptSymbol .doubleStar then return .binary .power base (← nested.factor)
      else return base : Reader Expr) (first :: more) := by
    rcases opens with rfl | ⟨value, rfl⟩ <;> rfl
  have factored : factor nested (first :: more) = some (tree, rest) := by
    simp only [direct, bind_apply, read, acceptSymbol, Option.bind_some,
      accept_other (ends.head?_ne (.symbol .doubleStar) rfl), Bool.false_eq_true, if_false,
      pure_apply]
  have summed := sum_of_terms (term_of_factor factored ends.operandEnds) (.stop ends)
  refine expression_of_bitOr ?_ ?_ (bitOr_of_sum summed ends) ends
  all_goals rcases opens with rfl | ⟨value, rfl⟩ <;> simp

theorem expression_bracketed (opens : Opens first)
    (read : nested.expression (first :: more) = some (tree, .symbol .closeParen :: rest))
    (unstarred : Check.isStarred tree = false) (ends : Ends rest) :
    expression nested (.symbol .openParen :: first :: more) = some (tree, rest) := by
  have opened : atom nested (.symbol .openParen :: first :: more) =
      enclosed .openParen .closeParen (parenthesized nested) (.symbol .openParen :: first :: more) :=
    rfl
  have inner : atom nested (.symbol .openParen :: first :: more) = some (tree, rest) := by
    simp only [opened, enclosed, bind_apply, symbol_apply, Option.bind_some,
      parenthesized_single opens read unstarred, pure_apply]
  refine expression_of_primary (.inl rfl) ?_ ends
  rw [primary, bind_apply, inner]
  exact grow_stop (trailer_none _ ends.operandEnds)

/-- A number in brackets is read at every depth that there are readers for. -/
theorem expression_brackets (number : Number) (count reach : Nat) {rest : List Token}
    (ends : Ends rest) :
    (Nested.upTo (reach + count + 1)).expression (List.replicate count (Token.symbol .openParen) ++
      Token.number number :: (List.replicate count (Token.symbol .closeParen) ++ rest)) =
        some (.constant (constantOf number), rest) := by
  induction count generalizing rest with
  | zero =>
    refine expression_of_primary (.inr ⟨number, rfl⟩) ?_ ends
    exact grow_stop (trailer_none _ ends.operandEnds)
  | succ count ih =>
    have closed : List.replicate (count + 1) (Token.symbol .closeParen) ++ rest =
        List.replicate count (Token.symbol .closeParen) ++ Token.symbol .closeParen :: rest := by
      rw [List.replicate_succ', List.append_assoc, List.singleton_append]
    have inner := ih (show Ends (.symbol .closeParen :: rest) from by rintro _ ⟨⟩; rfl)
    rw [closed, List.replicate_succ, List.cons_append]
    cases count with
    | zero => exact expression_bracketed (.inr ⟨number, rfl⟩) inner rfl ends
    | succ count => exact expression_bracketed (.inl rfl) inner rfl ends

end Grammar

/-- As many brackets as there may be are no more than can be read. -/
theorem readExpression_brackets (count : Nat) (room : count < maximalBrackets) :
    readExpression (List.replicate (count + 1) '(' ++ '1' :: List.replicate (count + 1) ')') =
      some (.constant (.integer 1)) := by
  have plain : ∀ c ∈ List.replicate (count + 1) '(' ++ '1' :: List.replicate (count + 1) ')',
      c ≠ '\r' := by
    intro c member
    simp only [List.mem_append, List.mem_cons, List.mem_replicate] at member
    rcases member with ⟨-, rfl⟩ | rfl | ⟨-, rfl⟩ <;> decide
  have begins (rest : Text) : words ⟨[], []⟩ .lineStart (List.replicate (count + 1) '(' ++ rest) =
      (words ⟨[], []⟩ (.inLine false) (List.replicate (count + 1) '(' ++ rest)).map ([] ++ ·) :=
    words_steps 1 rfl
  have lexed := @words_brackets [] [] false count room []
  rw [List.append_nil, words_nil] at lexed
  have margin : (List.replicate (count + 1) '(' ++ '1' :: List.replicate (count + 1) ')').dropWhile
      Text.isIndent = List.replicate (count + 1) '(' ++ '1' :: List.replicate (count + 1) ')' := rfl
  have high : (List.replicate (count + 1) '(' ++ '1' :: List.replicate (count + 1) ')').length + 1 =
      count + 2 + (count + 1) + 1 := by
    simp only [List.length_append, List.length_cons, List.length_replicate]
    omega
  rw [readExpression, margin, expressionTokens, unifyBreaks_eq plain, scanAll_eq, begins, lexed, high]
  have ends : Grammar.Ends [] := by simp [Grammar.Ends]
  have read := Grammar.expression_brackets (.integer 1) (count + 1) (count + 2) ends
  rw [List.append_nil] at read
  simp only [Option.map_some, Option.bind_eq_bind, Option.bind_some, List.nil_append, List.append_nil, read]
  rfl

/-! ### Calls -/

def stringOf (given : List (Argument Expr)) : Expr := .call (.name "str".toList) given

/-- The text of what code gives, as an operand whose words have the given ones inside. -/
def textOf (code : Text) (inside : List Token) (tree : Expr) : Addend where
  code := "str(".toList ++ (unifyBreaks code ++ [')'])
  tokens := [.name "str".toList, .symbol .openParen] ++ inside ++ [.symbol .closeParen]
  expr := stringOf [.positional tree]

theorem Encloses.legible (encloses : Encloses code tree) :
    ∃ inside, ∀ reach, code.length < reach → (textOf code inside tree).Legible reach := by
  obtain ⟨inside, spoken, read⟩ := encloses.words
  refine ⟨inside, fun reach high => ?_⟩
  obtain ⟨depth, rfl⟩ := Nat.exists_eq_add_of_le' (Nat.le_trans (Nat.succ_pos code.length) high)
  constructor
  case words =>
    intro indents blank rest _
    have shape : (textOf code inside tree).code ++ rest =
        "str(".toList ++ (unifyBreaks code ++ ')' :: rest) := by
      simp [textOf]
    have opened (after : Text) :
        Lexer.words ⟨indents, [.closeParen]⟩ (.inLine blank) ("str(".toList ++ after) =
          (Lexer.words ⟨indents, [.closeParen, .closeParen]⟩ (.inLine false) after).map
            ([.name "str".toList, .symbol .openParen] ++ ·) := words_steps 2 rfl
    have closed : Lexer.words ⟨indents, [.closeParen, .closeParen]⟩ (.inLine false) (')' :: rest) =
        (Lexer.words ⟨indents, [.closeParen]⟩ (.inLine false) rest).map
          ([.symbol .closeParen] ++ ·) := words_steps 1 rfl
    rw [shape, opened, spoken, closed]
    simp [textOf, Function.comp_def]
  case begins => exact fun rest => ⟨_, _, rfl, rfl⟩
  case term =>
    intro rest ends
    have heard := read (depth + 1) (.symbol .closeParen :: rest) high (border_cons.mpr rfl)
    have shorter : rest.length < (inside ++ .symbol .closeParen :: rest).length := by
      simp only [List.length_cons, List.length_append]
      omega
    have shape : (textOf code inside tree).tokens ++ rest =
        .name "str".toList :: .symbol .openParen :: (inside ++ .symbol .closeParen :: rest) := by
      simp [textOf]
    rw [shape]
    exact term_of_primary ⟨_, _, rfl, rfl⟩ (primary_call heard shorter ends) ends

end Stencil.Script
