import Mathlib
import Stencil.Fragment
import Stencil.Proofs.Locality.Enclosed
import Stencil.Proofs.Script.Alone
import Stencil.Proofs.Script.Call
import Stencil.Proofs.Script.Literal
import Stencil.Script.Names

/-!
Code that is put between the parentheses of a call. It stays the expression that it is by itself
where it is a single item of a list of expressions and nothing in it hides the closing parenthesis.
-/

set_option autoImplicit false

namespace Stencil

namespace Script

open Lexer Reader

/-! ### Brackets -/

theorem foldlM_follow_append {words : List Token} {closers later : List Symbol}
    (follows : words.foldlM Token.follow closers = some later) (base : List Symbol) :
    words.foldlM Token.follow (closers ++ base) = some (later ++ base) := by
  induction words generalizing closers with
  | nil =>
    cases follows
    rfl
  | cons word words ih =>
    obtain ⟨middle, first, follows⟩ := Option.bind_eq_some_iff.mp follows
    exact Option.bind_eq_some_iff.mpr ⟨middle ++ base, follow_append first base, ih follows⟩

theorem settles_append {words others : List Token} {closers : List Symbol} :
    Settles closers (words ++ others) ↔
      ∃ middle, words.foldlM Token.follow closers = some middle ∧ Settles middle others := by
  simp [Settles, List.foldlM_append, Option.bind_eq_some_iff]

theorem Reader.Settles.closing {words : List Token} (settles : Settles [] words) :
    Settles [.closeParen] (words ++ [Token.symbol .closeParen]) :=
  settles_append.mpr ⟨[.closeParen], foldlM_follow_append settles [.closeParen], rfl⟩

/-- Nothing is left of settled words and what closes a bracket around them but the empty end. -/
theorem Reader.Settles.left_eq_nil {words taken left : List Token} (settles : Settles [] words)
    (split : words ++ [Token.symbol .closeParen] = taken ++ left) (later : Settles [] left) :
    left = [] := by
  rcases List.eq_nil_or_concat left with rfl | ⟨front, last, rfl⟩
  · rfl
  · rw [List.concat_eq_append, ← List.append_assoc] at split
    obtain ⟨rfl, same⟩ := List.append_inj' split rfl
    obtain rfl : Token.symbol .closeParen = last := List.singleton_inj.mp same
    obtain ⟨middle, opened, closes⟩ := settles_append.mp (List.concat_eq_append ▸ later)
    obtain ⟨base, -, inside⟩ := settles_append.mp settles
    obtain ⟨after, follows, ended⟩ := settles_cons.mp closes
    obtain rfl := settles_nil.mp ended
    obtain rfl : middle = [.closeParen] := by
      cases middle with
      | nil => cases follows
      | cons closer closers =>
        obtain ⟨rfl, rfl⟩ : closer = .closeParen ∧ closers = [] := by
          simpa [Token.follow, Symbol.closer?, Symbol.isCloser] using follows
        rfl
    have around := foldlM_follow_append opened base
    rw [List.nil_append, inside] at around
    cases around

/-! ### Calls -/

section Calls

open Grammar

variable {inside tokens rest : List Token} {value : Expr} {depth reach : Nat}

/-- Arguments whose words are settled are read through the parenthesis that closes them. -/
theorem arguments_whole (settles : Settles [] inside) (light : weight inside + 1 < reach)
    {given : List (Argument Expr)}
    (read : arguments (Nested.upTo reach) true (inside ++ [Token.symbol .closeParen]) = some (given, rest)) :
    rest = [] := by
  have same := matches_upTo reach reach (Nat.le_refl reach) (Nat.le_refl reach)
  have whole : weight (inside ++ [Token.symbol .closeParen]) < reach := by
    rw [weight_append]
    exact light
  have closed : Settles ([Symbol.closeParen] ++ []) (inside ++ [Token.symbol .closeParen]) := settles.closing
  have agree := arguments_agrees same true [] _ [] [] closed border_nil border_nil whole
  simp only [List.append_nil] at agree
  rw [read] at agree
  cases agree with
  | read _ taken left split _ later =>
    rw [settles.left_eq_nil split later]
    rfl

/-- A call is read where its arguments are, and it is what stands alone in its code. -/
theorem parseExpression_call {code : Text}
    (found : expressionTokens code =
      some (.name "str".toList :: .symbol .openParen :: (inside ++ [Token.symbol .closeParen])))
    (settles : Settles [] inside) (light : weight inside + 1 < code.length) :
    parseExpression code =
      (arguments (Nested.upTo code.length) true (inside ++ [Token.symbol .closeParen])).map
        fun found => stringOf found.1 := by
  have begins : Begins (.name "str".toList :: .symbol .openParen :: (inside ++ [Token.symbol .closeParen])) :=
    ⟨_, _, rfl, rfl⟩
  have called : trailer (Nested.upTo code.length) (.name "str".toList)
      (.symbol .openParen :: (inside ++ [Token.symbol .closeParen])) =
        (arguments (Nested.upTo code.length) true (inside ++ [Token.symbol .closeParen])).map
          fun found => (some (stringOf found.1), found.2) := by
    simp [trailer, acceptSymbol, accept, bind_apply, map_apply, stringOf]
  have start : primary (Nested.upTo code.length)
      (.name "str".toList :: .symbol .openParen :: (inside ++ [Token.symbol .closeParen])) =
        grow (trailer (Nested.upTo code.length)) (.name "str".toList)
          (.symbol .openParen :: (inside ++ [Token.symbol .closeParen])) := rfl
  cases read : arguments (Nested.upTo code.length) true (inside ++ [Token.symbol .closeParen]) with
  | none =>
    refine parseExpression_eq_none found begins ?_
    rw [start, grow, List.length_cons, growUpTo, bind_apply, called, read]
    rfl
  | some pair =>
    obtain ⟨given, rest⟩ := pair
    obtain rfl := arguments_whole settles light read
    refine parseExpression_of_primary found begins ?_
    rw [read] at called
    rw [start]
    exact grow_of_grows (.next called (by simp) (.stop (trailer_none _ (by simp [OperandEnds]))))

/-! ### Items -/

/-- Reads one item of a list of expressions: an expression, or a starred operand. -/
def listItem (reach : Nat) : Reader Expr :=
  starOr (Nested.upTo reach) (Nested.upTo reach).expression

theorem listItem_matches {bound reach' : Nat} (low : bound ≤ reach) (low' : bound ≤ reach') :
    Matches bound (listItem reach) (listItem reach') :=
  have same := matches_upTo reach reach' low low'
  starOr_matches same same.expression

/-- What is read as an item with nothing of its own behind it is read as an argument. -/
theorem argument_item (read : listItem (depth + 1) tokens = some (value, rest)) (ends : Ends rest)
    (apart : rest.head? ≠ some (.symbol .assign)) :
    argument (Nested.upTo (depth + 1)) .positional tokens =
      some ((.positional value, .positional), rest) := by
  obtain ⟨⟨starred, middle⟩, star, read⟩ := Option.bind_eq_some_iff.mp read
  rcases accept_cases star with ⟨rfl, rfl⟩ | ⟨rfl, rfl, -⟩
  · obtain ⟨⟨operand, left⟩, bits, same⟩ := Option.bind_eq_some_iff.mp read
    cases same
    have plain {word : Keyword} (other : word = .notWord ∨ word = .lambdaWord) :
        middle.head? ≠ some (.keyword word) := by
      intro first
      obtain ⟨more, rfl⟩ := List.head?_eq_some_iff.mp first
      rcases other with rfl | rfl <;> cases bits
    have whole : (Nested.upTo (depth + 1)).expression middle = some (operand, rest) :=
      expression_of_bitOr (plain (.inl rfl)) (plain (.inr rfl)) bits ends
    have behind : argument (Nested.upTo (depth + 1)) .positional (.symbol .star :: middle) =
        ((Nested.upTo (depth + 1)).expression middle).map fun found =>
          ((.positional (.starred found.1), .positional), found.2) := by
      simp [argument, bind_apply, map_apply, peek, peekSecond, skip, guard]
    rw [behind, whole]
    rfl
  · exact argument_ends read ends apart

/-- Arguments are added in front of those that were found before. -/
theorem grown_arguments {nested : Nested} {count : Nat}
    {found last : List (Argument Expr) × ArgumentPhase}
    (read : growUpTo (moreArguments nested) count found tokens = some (last, rest)) :
    ∃ more, last.1 = more ++ found.1 := by
  induction count generalizing found tokens with
  | zero =>
    cases read
    exact ⟨[], rfl⟩
  | succ count ih =>
    obtain ⟨⟨next, middle⟩, step, read⟩ := Option.bind_eq_some_iff.mp read
    cases next with
    | none =>
      cases read
      exact ⟨[], rfl⟩
    | some next =>
      obtain ⟨more, same⟩ := ih read
      simp only [moreArguments, possibly] at step
      split at step
      next added =>
        cases step
        obtain ⟨⟨⟨⟩, behind⟩, -, added⟩ := Option.bind_eq_some_iff.mp added
        obtain ⟨⟨⟨one, phase⟩, after⟩, -, added⟩ := Option.bind_eq_some_iff.mp added
        cases added
        exact ⟨more ++ [one], by simpa using same⟩
      next => cases step

theorem arguments_head {nested : Nested} {given : List (Argument Expr)} {left : List Token}
    (first : argument nested .positional tokens = some ((.positional value, .positional), rest))
    (opened : tokens.head? ≠ some (.symbol .closeParen)) (ends : Ends rest)
    (read : arguments nested true tokens = some (given, left)) :
    given.head? = some (.positional value) := by
  rw [arguments_positional first opened ends] at read
  obtain ⟨⟨⟨found, phase⟩, middle⟩, grown, read⟩ := Option.bind_eq_some_iff.mp read
  obtain ⟨⟨comma, after⟩, -, read⟩ := Option.bind_eq_some_iff.mp read
  obtain ⟨⟨⟨⟩, behind⟩, -, read⟩ := Option.bind_eq_some_iff.mp read
  cases read
  obtain ⟨more, rfl⟩ := grown_arguments grown
  simp

theorem arguments_semicolon {nested : Nested}
    (first : argument nested .positional tokens =
      some ((.positional value, .positional), .symbol .semicolon :: rest))
    (opened : tokens.head? ≠ some (.symbol .closeParen)) : arguments nested true tokens = none := by
  have ends : Ends (.symbol .semicolon :: rest) := by
    intro token first
    cases first
    rfl
  have none : moreArguments nested ([.positional value], .positional) (.symbol .semicolon :: rest) =
      some (none, .symbol .semicolon :: rest) := by
    simp [moreArguments, possibly, bind_apply, symbol, token]
  rw [arguments_positional first opened ends, bind_apply, grow_stop none]
  simp [bind_apply, map_apply, acceptSymbol, accept, symbol, token]

/-! ### Programs of one expression -/

variable {text : Text} {tree : Expr}

/-- The words of a program of one expression, and what they are read as. -/
theorem words_of_program (single : ∀ c ∈ text, c ≠ '\n' ∧ c ≠ '\r')
    (program : readModule text = .ok [.expression tree]) :
    ∃ inside, expressionTokens text = some inside ∧ Settles [] inside ∧ weight inside ≤ text.length ∧
      (inside.head? = some (.keyword .yieldWord) ∨ ∃ left,
        starExpressions (Nested.upTo (text.length + 1)) (inside ++ [Token.newline]) = some (tree, left) ∧
          (left = [.newline] ∨ left = [.symbol .semicolon, .newline])) := by
  have parsed : parseModule text = some [.expression tree] := by
    simp only [readModule] at program
    split at program
    next => cases program
    next =>
      split at program
      next found => rwa [Except.ok.inj program] at found
      next => cases program
  obtain ⟨found, lexed, parsed⟩ := Option.bind_eq_some_iff.mp parsed
  split at parsed
  next => cases parsed
  next present =>
    obtain ⟨⟨statements, rest⟩, read, parsed⟩ := Option.bind_eq_some_iff.mp parsed
    obtain ⟨⟨⟩, ended, parsed⟩ := Option.bind_eq_some_iff.mp parsed
    cases parsed
    obtain rfl : rest = [] := by simpa [guard] using ended
    have alone := statements_alone read
    have margin : found.head? ≠ some .indent := by
      intro first
      obtain ⟨more, rfl⟩ := List.head?_eq_some_iff.mp first
      rcases alone with yields | ⟨left, stars, -⟩
      · cases yields
      · cases stars
    have some_words : found ≠ [] := fun same => present (by simp [same])
    obtain ⟨inside, alike, rfl⟩ := expressionTokens_line single lexed some_words margin
    have margin : inside.head? ≠ some .indent := by
      cases inside with
      | nil => simp
      | cons => exact margin
    obtain ⟨settles, light⟩ := expressionTokens_settles single alike margin
    refine ⟨inside, alike, settles, light, alone.imp_left fun yields => ?_⟩
    cases inside with
    | nil => cases yields
    | cons => exact yields

theorem tupleOf_cons {others : List Expr} {comma : Bool} (several : others ≠ [] ∨ comma = true) :
    tupleOf (value :: others) comma = .tuple (value :: others) := by
  cases others with
  | nil => simp [tupleOf, several.resolve_left (· rfl)]
  | cons => rfl

/-- A list of expressions is read as its first item, where nothing more is behind that, and else it is a
tuple. -/
theorem starExpressions_first {left : List Token}
    (read : starExpressions (Nested.upTo reach) tokens = some (tree, left)) :
    ∃ value rest, listItem reach tokens = some (value, rest) ∧
      (tree = value ∧ left = rest ∨
        rest.head? = some (.symbol .comma) ∧ ∃ others, tree = .tuple (value :: others)) := by
  obtain ⟨⟨⟨items, comma⟩, after⟩, listed, read⟩ := Option.bind_eq_some_iff.mp read
  cases read
  obtain ⟨⟨items, behind⟩, separated, listed⟩ := Option.bind_eq_some_iff.mp listed
  obtain ⟨⟨trailing, last⟩, closing, listed⟩ := Option.bind_eq_some_iff.mp listed
  cases listed
  obtain ⟨⟨value, rest⟩, one, separated⟩ := Option.bind_eq_some_iff.mp separated
  obtain ⟨⟨others, later⟩, more, separated⟩ := Option.bind_eq_some_iff.mp separated
  cases separated
  refine ⟨value, rest, one, ?_⟩
  rcases many_cases more with ⟨rfl, rfl⟩ | ⟨next, others, middle, rfl, second⟩
  · rcases accept_cases closing with ⟨rfl, rfl⟩ | ⟨rfl, rfl, -⟩
    · exact .inr ⟨rfl, [], rfl⟩
    · exact .inl ⟨rfl, rfl⟩
  · refine .inr ⟨?_, next :: others, tupleOf_cons (.inl (by simp))⟩
    obtain ⟨⟨⟨⟩, after⟩, comma, -⟩ := Option.bind_eq_some_iff.mp second
    exact List.head?_eq_some_iff.mpr ⟨after, token_taken comma⟩

/-! ### Embedded code -/

/-- The expression that code is by itself as a single item of a list. -/
def readItem (text : Text) : Option Expr := do
  let tokens ← expressionTokens text
  let (value, rest) ← listItem (text.length + 1) tokens
  guard rest.isEmpty
  return value

/-- Code that is a single item and that can be put in parentheses: no comment in it hides the closing
one, and there is room for its own brackets. -/
structure Embeds (text : Text) (tree : Expr) : Prop where
  enclosed : (expressionTokens ('(' :: text ++ [')'])).isSome = true
  item : readItem text = some tree

theorem expressionTokens_enclosed (single : ∀ c ∈ text, c ≠ '\n' ∧ c ≠ '\r') :
    expressionTokens ('(' :: text ++ [')']) =
        (words ⟨[], [.closeParen]⟩ (.inLine false) (text ++ [')'])).map ([.symbol .openParen] ++ ·) ∧
      expressionTokens (Fragment.stringCall text) =
        (words ⟨[], [.closeParen]⟩ (.inLine false) (text ++ [')'])).map
          ([.name "str".toList, .symbol .openParen] ++ ·) := by
  have plain (opening : Text) (apart : ∀ c ∈ opening, c ≠ '\r') :
      unifyBreaks (opening ++ (text ++ [')'])) = opening ++ (text ++ [')']) := by
    refine unifyBreaks_eq (List.forall_mem_append.mpr ⟨apart, List.forall_mem_append.mpr ⟨?_, by simp⟩⟩)
    exact fun c member => (single c member).2
  constructor
  · rw [expressionTokens, List.cons_append, ← List.singleton_append, plain _ (by simp), scanAll_eq]
    exact words_steps 2 rfl
  · rw [expressionTokens, Fragment.stringCall, List.append_assoc, plain _ (by simp), scanAll_eq]
    exact words_steps 3 rfl

theorem words_embedded (found : expressionTokens text = some inside)
    (single : ∀ c ∈ text, c ≠ '\n' ∧ c ≠ '\r') (settles : Settles [] inside)
    (enclosed : (expressionTokens ('(' :: text ++ [')'])).isSome = true) :
    expressionTokens (Fragment.stringCall text) =
      some (.name "str".toList :: .symbol .openParen :: (inside ++ [Token.symbol .closeParen])) := by
  obtain ⟨around, call⟩ := expressionTokens_enclosed single
  rw [around, Option.isSome_map] at enclosed
  rw [expressionTokens, unifyBreaks_eq fun c member => (single c member).2, scanAll_eq] at found
  have bracketed : words ⟨[], [.closeParen]⟩ (.inLine false) (text ++ [')']) =
      (words ⟨[], [.closeParen]⟩ (.inLine false) [')']).map (withoutLayout inside ++ ·) :=
    words_bracketed found (by simp) (by simp) enclosed []
  rw [call, bracketed, withoutLayout_settles settles]
  rfl

/-- An item of settled words is the same in front of other words and for readers that are deep enough. -/
theorem listItem_elsewhere {reach' : Nat} {one other : List Token} (settles : Settles [] inside)
    (light : weight inside < reach) (light' : weight inside < reach') (border : Border one)
    (border' : Border other) (read : listItem reach (inside ++ one) = some (value, rest)) :
    ∃ left, rest = left ++ one ∧ listItem reach' (inside ++ other) = some (value, left ++ other) := by
  have agree := listItem_matches (Nat.min_le_left reach reach') (Nat.min_le_right reach reach') []
    inside one other settles border border' (Nat.lt_min.mpr ⟨light, light'⟩)
  rw [read] at agree
  generalize heard : listItem reach' (inside ++ other) = again at agree
  cases agree with
  | read _ taken left _ _ _ => exact ⟨left, rfl, rfl⟩

theorem listItem_opened (read : listItem (depth + 1) tokens = some (value, rest)) :
    tokens.head? ≠ some (.symbol .closeParen) := by
  intro first
  obtain ⟨more, rfl⟩ := List.head?_eq_some_iff.mp first
  cases read

/-- A call's parentheses may be put around code that embeds. -/
theorem Embeds.parseExpression (embeds : Embeds text tree) (single : ∀ c ∈ text, c ≠ '\n' ∧ c ≠ '\r') :
    parseExpression (Fragment.stringCall text) = some (stringOf [.positional tree]) := by
  obtain ⟨inside, found, item⟩ := Option.bind_eq_some_iff.mp embeds.item
  obtain ⟨⟨value, left⟩, read, item⟩ := Option.bind_eq_some_iff.mp item
  obtain ⟨⟨⟩, ended, same⟩ := Option.bind_eq_some_iff.mp item
  cases same
  obtain rfl : left = [] := by simpa [guard] using ended
  have margin : inside.head? ≠ some .indent := by
    intro first
    obtain ⟨more, rfl⟩ := List.head?_eq_some_iff.mp first
    cases read
  obtain ⟨settles, light⟩ := expressionTokens_settles single found margin
  have size : (Fragment.stringCall text).length = text.length + 4 + 1 := by
    simp [Fragment.stringCall]
  rw [parseExpression_call (words_embedded found single settles embeds.enclosed) settles (by omega), size]
  rw [← List.append_nil inside] at read
  obtain ⟨left, nothing, again⟩ := listItem_elsewhere settles (Nat.lt_succ_of_le light)
    (show weight inside < text.length + 4 + 1 by omega) border_nil
    (border_cons.mpr rfl : Border [.symbol .closeParen]) read
  obtain rfl : left = [] := by simpa using nothing.symm
  have argument := argument_item again (ends_closeParen []) (by simp)
  have closed := arguments_closed argument (listItem_opened again)
  rw [closed]
  rfl

/-- If a call's parentheses may be put around a program of one expression, it embeds. -/
theorem embeds_of_call (single : ∀ c ∈ text, c ≠ '\n' ∧ c ≠ '\r')
    (program : readModule text = .ok [.expression tree])
    (read : parseExpression (Fragment.stringCall text) = some (stringOf [.positional tree])) :
    Embeds text tree := by
  obtain ⟨inside, found, settles, light, alone⟩ := words_of_program single program
  have enclosed : (expressionTokens ('(' :: text ++ [')'])).isSome = true := by
    obtain ⟨around, call⟩ := expressionTokens_enclosed single
    obtain ⟨words, lexed, -⟩ := Option.bind_eq_some_iff.mp read
    rw [around, Option.isSome_map, ← Option.isSome_map, ← call, lexed]
    rfl
  have size : (Fragment.stringCall text).length = text.length + 4 + 1 := by
    simp [Fragment.stringCall]
  rw [parseExpression_call (words_embedded found single settles enclosed) settles (by omega), size] at read
  obtain ⟨⟨given, behind⟩, arguments, same⟩ := Option.map_eq_some_iff.mp read
  obtain rfl : given = [.positional tree] := by simpa [stringOf] using same
  refine ⟨enclosed, ?_⟩
  rcases alone with yields | ⟨left, stars, ended⟩
  next =>
    obtain ⟨more, rfl⟩ := List.head?_eq_some_iff.mp yields
    cases arguments
  obtain ⟨value, middle, item, first⟩ := starExpressions_first stars
  have feed : Border [Token.newline] := border_cons.mpr rfl
  have close : Border [Token.symbol .closeParen] := border_cons.mpr rfl
  obtain ⟨behind, rfl, again⟩ := listItem_elsewhere settles (Nat.lt_succ_of_le light)
    (show weight inside < text.length + 4 + 1 by omega) feed close item
  rcases first with ⟨rfl, rfl⟩ | ⟨comma, others, rfl⟩
  next =>
    rcases ended with ended | ended
    next =>
      obtain ⟨left, same, alone⟩ := listItem_elsewhere settles (Nat.lt_succ_of_le light)
        (Nat.lt_succ_of_le light) feed border_nil item
      obtain rfl : left = [] := by simpa [ended] using same
      rw [List.append_nil] at alone
      simp [readItem, found, alone, guard]
    next =>
      -- nothing that a semicolon follows is an argument
      have line : behind ++ [Token.newline] = [.symbol .semicolon] ++ [Token.newline] := ended
      obtain rfl := List.append_cancel_right line
      have argument := argument_item again (by simp [Ends, endsExpression]) (by simp)
      rw [arguments_semicolon argument (listItem_opened again)] at arguments
      cases arguments
  next =>
    -- the items of a tuple are several arguments, and no item is the tuple
    obtain ⟨more, rfl⟩ : ∃ more, behind = .symbol .comma :: more := by
      cases behind with
      | nil => cases comma
      | cons word more => exact ⟨more, by rw [Option.some.inj comma]⟩
    have argument := argument_item again (by simp [Ends, endsExpression]) (by simp)
    have head := arguments_head argument (listItem_opened again) (by simp [Ends, endsExpression]) arguments
    rw [List.head?_cons] at head
    cases head

end Calls

/-! ### Values -/

/-- What a call that makes text of an expression gives: the text of its value. -/
theorem eval_stringOf {tree : Expr} {env : Env} {store : Store} (fuel : Nat)
    (plain : Check.isStarred tree = false)
    (builtin : Names.value "str".toList env store = .ok (.builtin .string) store) :
    eval (fuel + 3) env (stringOf [.positional tree]) store =
      (do
        let value ← eval (fuel + 1) env tree
        return .ofPoints (← value.displayPoints) : Run Value) store := by
  have unstarred : ∀ item, tree = .starred item → False := by
    rintro item rfl
    cases plain
  have named : eval (fuel + 2) env (.name "str".toList) store = .ok (.builtin .string) store := by
    rw [eval]
    exact builtin
  have given : evalArguments (fuel + 2) env [.positional tree] store =
      (do
        let value ← eval (fuel + 1) env tree
        return ([value], []) : Run (List Value × List (Text × Value))) store := by
    rw [evalArguments]
    · rfl
    · exact unstarred
  rw [stringOf, eval]
  simp only [Outcome.bind_apply, named, given]
  cases eval (fuel + 1) env tree store with
  | error failure later => rfl
  | ok value later =>
    simp only [Outcome.pure_apply, call, Builtin.apply, Builtin.toText, Outcome.bind_apply]

end Script

namespace Fragment

open Script

/-- A token's code is the call that makes text of its expression exactly if the expression is a single
item that can be enclosed. What the call gives is then the text of the expression's value. -/
theorem embedding_keeps_iff {plain braced : Token} {text : Text} {tree : Expr}
    (isPlain : plain.kind = .expression ∧ plain.content = text)
    (isBraced : braced.kind = .bracketExpression ∧ braced.content = '{' :: text ++ ['}'])
    (single : ∀ c ∈ text, c ≠ '\n' ∧ c ≠ '\r')
    (program : readModule text = .ok [.expression tree]) :
    ∃ code, ofToken plain false = .ok code ∧ ofToken braced false = .ok code ∧
      (parseExpression code = some (.call (.name "str".toList) [.positional tree]) ↔
        Embeds text tree) ∧
      ∀ fuel env store, Check.isStarred tree = false →
        Names.value "str".toList env store = .ok (.builtin .string) store →
        eval (fuel + 3) env (.call (.name "str".toList) [.positional tree]) store =
          (do
            let value ← eval (fuel + 1) env tree
            return .ofPoints (← value.displayPoints) : Run Value) store := by
  have within : inside ('{' :: text ++ ['}']) = text := by simp [inside]
  refine ⟨stringCall text, ?_, ?_, ⟨embeds_of_call single program, (·.parseExpression single)⟩, ?_⟩
  · simp [ofToken, ofExpression, isPlain]
  · simp only [ofToken, isBraced, ofExpression, within, Bool.false_eq_true, if_false]
  · exact fun fuel env store unstarred builtin => eval_stringOf fuel unstarred builtin

open String (toList_ofList)

def choiceText : Text := "[y, *z] if x else (v, w)".toList

def choiceTree : Expr :=
  .conditional (.name "x".toList) (.list [.name "y".toList, .starred (.name "z".toList)])
    (.tuple [.name "v".toList, .name "w".toList])

def choiceToken : Token := ⟨.expression, choiceText, 1, 3, 2⟩

def choiceBraced : Token := ⟨.bracketExpression, '{' :: choiceText ++ ['}'], 1, 5, 4⟩

set_option maxRecDepth 2000 in
theorem embedding_keeps_choice :
    readModule choiceText = .ok [.expression choiceTree] ∧
      parseExpression (stringCall choiceText) =
        some (.call (.name "str".toList) [.positional choiceTree]) := by
  have program : readModule choiceText = .ok [.expression choiceTree] := by
    rw [show choiceText = _ from toList_ofList]
    rfl
  have item : readItem choiceText = some choiceTree := by
    rw [show choiceText = _ from toList_ofList]
    rfl
  have single : ∀ c ∈ choiceText, c ≠ '\n' ∧ c ≠ '\r' := by
    have all : (choiceText.all fun c => c ≠ '\n' ∧ c ≠ '\r') = true := by decide +kernel
    exact fun c member => of_decide_eq_true (List.all_eq_true.mp all c member)
  obtain ⟨code, first, -, same, -⟩ := embedding_keeps_iff
    (show choiceToken.kind = .expression ∧ choiceToken.content = choiceText from ⟨rfl, rfl⟩)
    (show choiceBraced.kind = .bracketExpression ∧
      choiceBraced.content = '{' :: choiceText ++ ['}'] from ⟨rfl, rfl⟩)
    single program
  have written : ofToken choiceToken false = .ok (stringCall choiceText) := rfl
  rw [written] at first
  cases first
  exact ⟨program, same.mpr ⟨by decide +kernel, item⟩⟩

/-- A tuple without parentheses becomes several arguments. -/
theorem embedding_splits_tuple :
    readModule "1, 2".toList =
        .ok [.expression (.tuple [.constant (.integer 1), .constant (.integer 2)])] ∧
      ofToken ⟨.expression, "1, 2".toList, 1, 3, 2⟩ false = .ok "str(1, 2)".toList ∧
      parseExpression "str(1, 2)".toList = some (.call (.name "str".toList)
        [.positional (.constant (.integer 1)), .positional (.constant (.integer 2))]) := by
  refine ⟨?_, rfl, ?_⟩
  next =>
    rw [show "1, 2".toList = _ from toList_ofList]
    rfl
  next =>
    rw [show "str(1, 2)".toList = _ from toList_ofList]
    rfl

end Fragment

end Stencil
