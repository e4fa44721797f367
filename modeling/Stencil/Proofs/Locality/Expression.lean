import Stencil.Proofs.Locality.Field
import Stencil.Proofs.Locality.Line
import Stencil.Script.Grammar.Expression

/-!
Expressions are read alike in front of all tails and by readers of all depths that are great
enough. Each reader agrees with another of its kind if what they take for what is within agrees.
-/

set_option autoImplicit false

namespace Stencil.Script

open Reader

variable {α : Type}

/-- Readers of expressions that agree wherever an expression may stand. -/
abbrev Matches (bound : Nat) (reader reader' : Reader α) : Prop :=
  Agree [] [] (fun _ => 1) bound reader reader'

/-- Readers for what is within that agree on words that are not too many. -/
structure Nested.Matches (bound : Nat) (nested nested' : Nested) : Prop where
  expression : Script.Matches bound nested.expression nested'.expression
  disjunction : Script.Matches bound nested.disjunction nested'.disjunction
  inversion : Script.Matches bound nested.inversion nested'.inversion
  bitOr : Script.Matches bound nested.bitOr nested'.bitOr
  factor : Script.Matches bound nested.factor nested'.factor
  primary : Script.Matches bound nested.primary nested'.primary

namespace Grammar

variable {bound : Nat} {reader reader' : Reader Expr}

theorem blind₂_namedExpression (reader : Reader Expr) :
    Blind₂ fun first second => match first, second with
      | some (.name target), some (.symbol .walrus) => do
        skip 2
        return .named (nameOf target) (← reader)
      | _, _ => do
        let value ← reader
        reject (.symbol .walrus)
        return value := by
  constructor
  · intro word second border
    rcases border_cases border with rfl | rfl | rfl | rfl | rfl | rfl <;> rfl
  · intro found word border
    rcases border_cases border with rfl | rfl | rfl | rfl | rfl | rfl
    all_goals
      rcases found with _ | found
      next => rfl
      next => cases found <;> rfl

theorem namedExpression_matches (agree : Matches bound reader reader') :
    Matches bound (namedExpression reader) (namedExpression reader') := by
  have plain : Matches bound (do let value ← reader; reject (.symbol .walrus); return value)
      (do let value ← reader'; reject (.symbol .walrus); return value) :=
    agree.taking fun value => (agree_reject (turns_plain rfl [])).andThen fun _ => agree_value _
  refine agree_peek₂ (blind₂_namedExpression reader) (blind₂_namedExpression reader')
    (fun first second => ?_) (fun word => ?_) fun _ => plain
  · split
    next _ _ target same same' =>
      cases same
      cases same'
      exact .skipTwo rfl rfl ((agree.fewer 2).return fun _ => Nat.le_refl _)
    next => exact plain.from _
  · cases word <;> exact plain.from _

/-- Whether the next two tokens begin the clauses of a comprehension. -/
def clausesAhead : Option Token → Option Token → Reader Bool
  | some (.keyword .forWord), _ => return true
  | some (.keyword .asyncWord), some (.keyword .forWord) => return true
  | _, _ => return false

theorem blind_clausesAhead : Blind₂ clausesAhead := by
  constructor
  · intro word second border
    rcases border_cases border with rfl | rfl | rfl | rfl | rfl | rfl <;> rfl
  · intro found word border
    rcases border_cases border with rfl | rfl | rfl | rfl | rfl | rfl
    all_goals
      rcases found with _ | found
      next => rfl
      next =>
        cases found
        case keyword one => cases one <;> rfl
        all_goals rfl

theorem clausesFollow_agrees (brackets : List Symbol) :
    Agree brackets brackets (fun _ => 0) bound clausesFollow clausesFollow := by
  refine agree_peek₂ blind_clausesAhead blind_clausesAhead (fun first second => ?_)
    (fun word => ?_) fun _ => agree_value _
  · split <;> exact (agree_value _).from _
  · split <;> exact (agree_value _).from _

variable {nested nested' : Nested} (same : nested.Matches bound nested')

include same

theorem starOr_matches (other : Matches bound reader reader') :
    Matches bound (starOr nested reader) (starOr nested' reader') :=
  .ifAccept (turns_plain rfl []) ((same.bitOr.fewer 1).return fun _ => Nat.le_refl _) other

theorem starNamed_matches : Matches bound (starNamed nested) (starNamed nested') :=
  starOr_matches same (namedExpression_matches same.expression)

theorem starExpressions_matches : Matches bound (starExpressions nested) (starExpressions nested') :=
  (starOr_matches same same.expression).commaList.return fun _ => Nat.le_refl _

theorem yieldExpression_matches : Matches bound (yieldExpression nested) (yieldExpression nested') := by
  refine (agree_token (turns_plain rfl [])).taking fun _ => .ifAccept (turns_plain rfl []) ?_ ?_
  · exact (same.expression.fewer 1).return fun _ => Nat.le_refl _
  · exact (starExpressions_matches same).possibly.loose.return fun _ => Nat.le_refl _

theorem starTarget_matches : Matches bound (starTarget nested) (starTarget nested') :=
  (agree_accept (turns_plain rfl [])).loose.andThen fun _ =>
    same.primary.taking fun _ => (agree_guard _).andThen fun _ => agree_value _

theorem starTargets_matches : Matches bound (starTargets nested) (starTargets nested') :=
  (starTarget_matches same).commaList.return fun _ => Nat.le_refl _

/-! ### Comprehensions -/

theorem clause_matches : Matches bound (clause nested) (clause nested') := by
  have condition : Matches bound (do keyword .ifWord; nested.disjunction)
      (do keyword .ifWord; nested'.disjunction) :=
    (agree_token (turns_plain rfl [])).taking fun _ => same.disjunction.loose
  exact (agree_accept (turns_plain rfl [])).loose.andThen fun _ =>
    (agree_token (turns_plain rfl [])).taking fun _ =>
      (starTargets_matches same).loose.andThen fun _ =>
        (agree_token (turns_plain rfl [])).loose.andThen fun _ =>
          same.disjunction.loose.andThen fun _ => condition.many.andThen fun _ => agree_value _

theorem comprehensionOf_matches (kind : ComprehensionKind) (element : Expr) (value : Option Expr) :
    Matches bound (comprehensionOf nested kind element value)
      (comprehensionOf nested' kind element value) := by
  unfold comprehensionOf
  split
  next => exact agree_failure
  next => exact (clause_matches same).many1.return fun _ => Nat.le_refl _

/-! ### Arguments and parameters -/

omit same in
theorem blind₂_argument (nested : Nested) (phase : ArgumentPhase) :
    Blind₂ fun first second => match first, second with
      | some (.symbol .doubleStar), _ => do
        skip 1
        return (Argument.mapping (← nested.expression), ArgumentPhase.mapping)
      | some (.name name), some (.symbol .assign) => do
        skip 2
        let value ← nested.expression
        return (.keyword (nameOf name) value, if phase = .mapping then .mapping else .named)
      | some (.symbol .star), _ => do
        guard (phase ≠ .mapping)
        skip 1
        return (.positional (.starred (← nested.expression)), phase)
      | _, _ => do
        guard (phase = .positional)
        let value ← namedExpression nested.expression
        reject (.symbol .assign)
        return (.positional value, .positional) := by
  constructor
  · intro word second border
    rcases border_cases border with rfl | rfl | rfl | rfl | rfl | rfl <;> rfl
  · intro found word border
    rcases border_cases border with rfl | rfl | rfl | rfl | rfl | rfl
    all_goals
      rcases found with _ | found
      next => rfl
      next =>
        cases found
        case symbol sign => cases sign <;> rfl
        all_goals rfl

theorem argument_matches (phase : ArgumentPhase) :
    Matches bound (argument nested phase) (argument nested' phase) := by
  have positional : Matches bound
      (do
        guard (phase = .positional)
        let value ← namedExpression nested.expression
        reject (.symbol .assign)
        return (Argument.positional value, ArgumentPhase.positional))
      (do
        guard (phase = .positional)
        let value ← namedExpression nested'.expression
        reject (.symbol .assign)
        return (Argument.positional value, ArgumentPhase.positional)) :=
    (agree_guard _).andThen fun _ => (namedExpression_matches same.expression).taking fun _ =>
      (agree_reject (turns_plain rfl [])).andThen fun _ => agree_value _
  have value := same.expression.fewer 1
  refine agree_peek₂ (blind₂_argument nested phase) (blind₂_argument nested' phase)
    (fun first second => ?_) (fun word => ?_) fun _ => positional
  · split
    next _ _ found =>
      cases found
      exact .skipOne rfl (value.return fun _ => Nat.le_refl _)
    next _ _ name found found' =>
      cases found
      cases found'
      exact .skipTwo rfl rfl ((same.expression.fewer 2).return fun _ => Nat.le_refl _)
    next _ _ found =>
      cases found
      exact .guarded _ (.skipOne rfl (value.return fun _ => Nat.le_refl _))
    next => exact positional.from _
  · split
    next _ _ found =>
      cases found
      exact .skipOne rfl (value.return fun _ => Nat.le_refl _)
    next _ _ name found found' => cases found'
    next _ _ found =>
      cases found
      exact .guarded _ (.skipOne rfl (value.return fun _ => Nat.le_refl _))
    next => exact positional.from _

/-- Whether an argument is followed by others. -/
theorem moreArguments_agrees (found : List (Argument Expr) × ArgumentPhase) :
    Agree [] [] stepGap bound (moreArguments nested found) (moreArguments nested' found) := by
  refine Agree.possibly_step ?_
  exact (agree_token (turns_plain rfl [])).taking fun _ =>
    (argument_matches same _).loose.andThen fun _ => agree_value _

theorem arguments_agrees (comprehensions : Bool) :
    Agree [.closeParen] [] (fun _ => 1) bound (arguments nested comprehensions)
      (arguments nested' comprehensions) := by
  have closes : Agree [.closeParen] [] (fun _ => 1) bound (symbol .closeParen) (symbol .closeParen) :=
    agree_token (turns_close rfl [])
  refine .ifAccept (turns_close rfl []) (agree_value _) ?_
  refine ((argument_matches same _).within _).taking fun _ => ?_
  refine (clausesFollow_agrees _).andThen fun _ => ?_
  split
  next =>
    exact ((comprehensionOf_matches same _ _ _).within _).loose.andThen fun _ =>
      closes.loose.andThen fun _ => agree_value _
  next =>
    have more := fun found => (moreArguments_agrees same found).within [.closeParen]
    exact (Agree.grow more (fun none => nomatch none) _).andThen fun _ =>
      (agree_accept (turns_plain rfl _)).loose.andThen fun _ =>
        closes.loose.andThen fun _ => agree_value _

omit same in
/-- The type of a parameter, where parameters have types. -/
theorem typing_agrees (typed : Bool) (agree : Matches bound reader reader') :
    Agree [] [] (fun _ => 0) bound
      (if typed then (do if ← acceptSymbol .colon then return some (← reader) else return none)
        else return none)
      (if typed then (do if ← acceptSymbol .colon then return some (← reader') else return none)
        else return none : Reader (Option Expr)) :=
  .ite (.ifAccept (turns_plain rfl []) ((agree.fewer 1).return fun _ => Nat.le_refl _)
    (agree_value _)) (agree_value _)

theorem parameterItem_matches (typed : Bool) :
    Matches bound (parameterItem nested typed) (parameterItem nested' typed) := by
  have typing := typing_agrees typed same.expression
  have starred := typing_agrees typed (starOr_matches same same.expression)
  refine .ifAccept (turns_plain rfl []) (agree_value _) ?_
  refine .ifAccept (turns_plain rfl []) ?_ ?_
  · exact agree_name.loose.andThen fun _ => (typing.fewer 1).andThen fun _ => agree_value _
  refine .ifAccept (turns_plain rfl []) ?_ ?_
  · refine agree_peek ?_ ?_ (fun word => ?_) fun _ => agree_value _
    · intro word border
      rcases border_cases border with rfl | rfl | rfl | rfl | rfl | rfl <;> rfl
    · intro word border
      rcases border_cases border with rfl | rfl | rfl | rfl | rfl | rfl <;> rfl
    · split
      next _ id found =>
        cases found
        exact .skipOne rfl ((starred.less (fun _ => Nat.le_refl _) (by omega)).andThen fun _ => agree_value _)
      next => exact (agree_value _).from _
  · refine agree_name.taking fun id => typing.andThen fun type => ?_
    refine .ifAccept (turns_plain rfl []) ?_ (agree_value _)
    exact (same.expression.fewer 1).andThen fun _ => agree_value _

theorem parameters_agrees (typed : Bool) {closing : Symbol} {brackets later : List Symbol}
    (turns : Turns brackets (.symbol closing) later) :
    Agree brackets brackets (fun _ => 0) bound (parameters nested typed closing)
      (parameters nested' typed closing) := by
  refine (agree_nextIs turns).andThen fun found => .ite (agree_value _) ?_
  refine ((parameterItem_matches same typed).commaList.within _).loose.andThen fun items => ?_
  refine (agree_guard _).andThen fun _ => ?_
  split
  next => exact agree_value _
  next => exact agree_failure

/-! ### Brackets -/

theorem moreItems_agrees (brackets : List Symbol) :
    Agree brackets brackets (fun _ => 0) bound (moreItems nested) (moreItems nested') := by
  have next : Matches bound (do symbol .comma; starNamed nested) (do symbol .comma; starNamed nested') :=
    (agree_token (turns_plain rfl [])).taking fun _ => (starNamed_matches same).loose
  exact (next.within _).many.andThen fun _ =>
    (agree_accept (turns_plain rfl _)).loose.andThen fun _ => agree_value _

theorem parenthesized_agrees :
    Agree [.closeParen] [.closeParen] (fun _ => 0) bound (parenthesized nested)
      (parenthesized nested') := by
  refine (agree_nextIs (turns_close rfl [])).andThen fun _ => .ite (agree_value _) ?_
  refine (agree_nextIs (turns_plain rfl _)).andThen fun _ =>
    .ite ((yieldExpression_matches same).within _).loose ?_
  refine ((starNamed_matches same).within _).loose.andThen fun first => ?_
  refine (clausesFollow_agrees _).andThen fun _ =>
    .ite ((comprehensionOf_matches same _ _ _).within _).loose ?_
  refine (moreItems_agrees same _).andThen fun others => .ite ?_ (agree_value _)
  split
  next => exact agree_failure
  next => exact agree_value _

theorem bracketed_agrees :
    Agree [.closeBracket] [.closeBracket] (fun _ => 0) bound (bracketed nested)
      (bracketed nested') := by
  refine (agree_nextIs (turns_close rfl [])).andThen fun _ => .ite (agree_value _) ?_
  refine ((starNamed_matches same).within _).loose.andThen fun first => ?_
  refine (clausesFollow_agrees _).andThen fun _ =>
    .ite ((comprehensionOf_matches same _ _ _).within _).loose ?_
  exact (moreItems_agrees same _).andThen fun _ => agree_value _

theorem dictItem_matches : Matches bound (dictItem nested) (dictItem nested') := by
  refine .ifAccept (turns_plain rfl []) ((same.bitOr.fewer 1).return fun _ => Nat.le_refl _) ?_
  exact same.expression.taking fun _ => (agree_token (turns_plain rfl [])).loose.andThen fun _ =>
    same.expression.loose.andThen fun _ => agree_value _

theorem moreDictItems_agrees (brackets : List Symbol) :
    Agree brackets brackets (fun _ => 0) bound (moreDictItems nested) (moreDictItems nested') := by
  have next : Matches bound (do symbol .comma; dictItem nested) (do symbol .comma; dictItem nested') :=
    (agree_token (turns_plain rfl [])).taking fun _ => (dictItem_matches same).loose
  exact (next.within _).many.andThen fun _ =>
    (agree_accept (turns_plain rfl _)).loose.andThen fun _ => agree_value _

theorem braced_agrees :
    Agree [.closeBrace] [.closeBrace] (fun _ => 0) bound (braced nested) (braced nested') := by
  refine (agree_nextIs (turns_close rfl [])).andThen fun _ => .ite (agree_value _) ?_
  refine (agree_nextIs (turns_plain rfl _)).andThen fun _ => .ite ?_ ?_
  · exact ((dictItem_matches same).within _).loose.andThen fun first =>
      (moreDictItems_agrees same _).andThen fun _ => agree_value _
  refine agree_peekSecond ?_ ?_ (by simp) fun second => ?_
  · intro word border
    rcases border_cases border with rfl | rfl | rfl | rfl | rfl | rfl <;> rfl
  · intro word border
    rcases border_cases border with rfl | rfl | rfl | rfl | rfl | rfl <;> rfl
  refine ((starNamed_matches same).within _).loose.andThen fun first => ?_
  refine (clausesFollow_agrees _).andThen fun _ =>
    .ite ((comprehensionOf_matches same _ _ _).within _).loose ?_
  refine .ifNextIs (turns_plain rfl _) (.guarded _ ?_) ?_
  · split
    next => exact agree_failure.from _
    next =>
      refine .skipOne rfl (((same.expression.within _).fewer 1).andThen fun value => ?_)
      refine (clausesFollow_agrees _).andThen fun _ => .ite ?_ ?_
      · exact ((comprehensionOf_matches same _ _ _).within _).fewer 1
      · exact ((moreDictItems_agrees same _).fewer 1).andThen fun _ => agree_value _
  · exact (moreItems_agrees same _).andThen fun _ => agree_value _

theorem sliceRest_matches (lower : Option Expr) :
    Matches bound (sliceRest nested lower) (sliceRest nested' lower) := by
  have bounds := same.expression.possibly.loose
  refine (agree_token (turns_plain rfl [])).taking fun _ => bounds.andThen fun upper => ?_
  exact .ifAccept (turns_plain rfl []) ((bounds.fewer 1).andThen fun _ => agree_value _)
    (agree_value _)

theorem sliceItem_agrees :
    Agree [.closeBracket] [.closeBracket] (fun _ => 1) bound (sliceItem nested) (sliceItem nested') := by
  refine .ifAccept (turns_plain rfl _) ?_ ?_
  · exact ((same.expression.within _).fewer 1).return fun _ => Nat.le_refl _
  refine (agree_nextIs (turns_plain rfl _)).andThen fun _ =>
    .ite ((sliceRest_matches same _).within _) ?_
  refine agree_peekSecond ?_ ?_ (by simp) fun second =>
    .ite ((namedExpression_matches same.expression).within _) ?_
  · intro word border
    rcases border_cases border with rfl | rfl | rfl | rfl | rfl | rfl <;> rfl
  · intro word border
    rcases border_cases border with rfl | rfl | rfl | rfl | rfl | rfl <;> rfl
  refine (same.expression.within _).taking fun value => ?_
  exact (agree_nextIs (turns_plain rfl _)).andThen fun _ =>
    .ite ((sliceRest_matches same _).within _).loose (agree_value _)

theorem slices_agrees :
    Agree [.closeBracket] [.closeBracket] (fun _ => 0) bound (slices nested) (slices nested') := by
  refine (sliceItem_agrees same).commaList.loose.andThen fun found => ?_
  obtain ⟨items, comma⟩ := found
  dsimp only
  split
  next => exact agree_value _
  next => exact agree_value _

/-! ### Operators -/

omit same in
/-- A chain of operators of one level. -/
theorem leftGrouped_matches {op? : Token → Option BinaryOp}
    (plain : ∀ word, (op? word).isSome = true → word.isPlain = true)
    (agree : Matches bound reader reader') :
    Matches bound (leftGrouped op? reader) (leftGrouped op? reader') := by
  have unseen (word : Token) (border : word.isBorder = true) : op? word = none := by
    cases found : op? word with
    | none => rfl
    | some op =>
      rw [Token.isBorder_plain (plain word (by simp [found]))] at border
      cases border
  refine agree.taking fun first => .growPossibly (fun left => ?_) first
  refine agree_peek (fun word border => ?_) (fun word border => ?_) (fun word => ?_) fun _ => agree_failure
  · simp only [Option.bind_some, unseen word border, Option.bind_none]
  · simp only [Option.bind_some, unseen word border, Option.bind_none]
  · simp only [Option.bind_some]
    cases found : op? word with
    | none => exact agree_failure.from _
    | some op =>
      exact .skipOne (plain word (by simp [found])) ((agree.fewer 1).return fun _ => Nat.le_refl _)

omit same in
theorem termOp?_plain (word : Token) (found : (termOp? word).isSome = true) : word.isPlain = true := by
  cases word with
  | symbol sign => cases sign <;> first | rfl | cases found
  | _ => cases found

omit same in
theorem sumOp?_plain (word : Token) (found : (sumOp? word).isSome = true) : word.isPlain = true := by
  cases word with
  | symbol sign => cases sign <;> first | rfl | cases found
  | _ => cases found

omit same in
theorem shiftOp?_plain (word : Token) (found : (shiftOp? word).isSome = true) :
    word.isPlain = true := by
  cases word with
  | symbol sign => cases sign <;> first | rfl | cases found
  | _ => cases found

omit same in
theorem only_plain {expected : Token} {op : BinaryOp} (plain : expected.isPlain = true) (word : Token)
    (found : (if word = expected then some op else none).isSome = true) : word.isPlain = true := by
  split at found
  next same => rw [same, plain]
  next => cases found

/-! ### Atoms -/

omit same in
theorem quotation_eq_some {tokens rest : List Token} {found : Quotation}
    (read : quotation tokens = some (found, rest)) : tokens = .quotation found :: rest := by
  unfold quotation at read
  split at read
  next =>
    cases read
    rfl
  next => cases read

omit same in
theorem grown_quotations {count : Nat} {found result : List Quotation} {tokens rest : List Token}
    (read : growUpTo (fun found => do return (← possibly quotation).map (· :: found)) count found tokens =
      some (result, rest)) :
    ∃ more : List Quotation, result = more.reverse ++ found ∧ tokens = more.map Token.quotation ++ rest := by
  induction count generalizing found tokens with
  | zero =>
    cases read
    exact ⟨[], rfl, rfl⟩
  | succ count ih =>
    simp only [growUpTo, bind_apply, possibly] at read
    cases first : quotation tokens with
    | none =>
      rw [first] at read
      cases read
      exact ⟨[], rfl, rfl⟩
    | some pair =>
      obtain ⟨one, others⟩ := pair
      rw [first] at read
      obtain ⟨more, rfl, rfl⟩ := ih read
      exact ⟨one :: more, by simp, quotation_eq_some first⟩

omit same in
/-- What quotations are read stands in the words. -/
theorem many1_quotation {tokens rest : List Token} {found : List Quotation}
    (read : many1 quotation tokens = some (found, rest)) :
    tokens = found.map Token.quotation ++ rest := by
  obtain ⟨⟨first, others⟩, one, read⟩ := Option.bind_eq_some_iff.mp read
  obtain ⟨⟨more, last⟩, later, read⟩ := Option.bind_eq_some_iff.mp read
  cases read
  obtain ⟨⟨grown, last⟩, steps, later⟩ := Option.bind_eq_some_iff.mp later
  cases later
  obtain ⟨more, rfl, rfl⟩ := grown_quotations steps
  simpa using quotation_eq_some one

/-- The quotation that a token is. -/
def quoted : Token → Option Quotation
  | .quotation found => some found
  | _ => none

omit same in
theorem agree_quotation : Matches bound quotation quotation := by
  have plain (word : Token) (value : Quotation) (found : quoted word = some value) :
      word.isPlain = true := by
    cases word <;> first | rfl | cases found
  refine agree_single plain fun tokens => ?_
  cases tokens with
  | nil => rfl
  | cons word rest => cases word <;> rfl

omit same in
theorem mapM_congr {α β : Type} {read read' : α → Option β} {items : List α}
    (same : ∀ item ∈ items, read item = read' item) : items.mapM read = items.mapM read' := by
  induction items with
  | nil => rfl
  | cons item items ih =>
    obtain ⟨first, others⟩ := List.forall_mem_cons.mp same
    rw [List.mapM_cons, List.mapM_cons, first, ih others]

omit same in
theorem quotationsValue_congr {read read' : Text → Option Expr} {quotations : List Quotation}
    (same : ∀ one ∈ quotations, ∀ field : Text, field.length + 2 ≤ one.body.length →
      read field = read' field) :
    quotationsValue read quotations = quotationsValue read' quotations := by
  have pieces : (quotations.mapM fun quotation =>
        if quotation.formatted then Formatted.parts? read quotation.raw quotation.body
        else (plainPoints quotation).map fun points => [FormatPart.fixed points]) =
      quotations.mapM fun quotation =>
        if quotation.formatted then Formatted.parts? read' quotation.raw quotation.body
        else (plainPoints quotation).map fun points => [FormatPart.fixed points] :=
    mapM_congr fun one member => by rw [Formatted.parts?_congr (same one member)]
  rw [quotationsValue, quotationsValue, pieces]

theorem readField_congr {text : Text} (short : text.length + 3 < bound) :
    readField nested text = readField nested' text := by
  unfold readField
  cases read : Lexer.statementTokens ('(' :: text ++ [')']) with
  | none => rfl
  | some found =>
    obtain ⟨inside, rest, rfl, settles, border, light⟩ := Lexer.statementTokens_settle read
    have size : (text ++ [')']).length = text.length + 1 := by simp
    rw [List.append_eq, size] at light
    have found := same.primary [] inside rest rest settles border border (by omega)
    simp only [Option.bind_eq_bind, Option.bind_some]
    generalize nested.primary (inside ++ rest) = first at found ⊢
    generalize nested'.primary (inside ++ rest) = second at found ⊢
    cases found with
    | failed => rfl
    | read value taken left split enough settled => rfl

theorem quotations_matches : Matches (bound + 1) (quotations nested) (quotations nested') := by
  intro outer words one other settles border border' light
  simp only [quotations, bind_apply]
  have found := agree_quotation.many1 outer words one other settles border border' light
  generalize first : many1 quotation (words ++ one) = read at found ⊢
  generalize many1 quotation (words ++ other) = read' at found ⊢
  cases found with
  | failed => exact .failed
  | read quoted taken left split enough settled =>
    have member (one : Quotation) (known : one ∈ quoted) : Token.quotation one ∈ words := by
      have whole := many1_quotation first
      rw [split, List.append_assoc] at whole
      rw [split, List.append_cancel_right whole]
      exact List.mem_append_left _ (List.mem_map_of_mem known)
    have alike : quotationsValue (readField nested) quoted = quotationsValue (readField nested') quoted := by
      refine quotationsValue_congr fun one known field short => readField_congr same ?_
      have heavy := weight_mem (member one known)
      simp only [Token.weight] at heavy
      omega
    simp only [Option.bind_some, alike]
    cases quotationsValue (readField nested') quoted with
    | none => exact .failed
    | some value => exact .read value taken left split enough settled

theorem trailer_agrees (object : Expr) :
    Agree [] [] stepGap (bound + 1) (trailer nested object) (trailer nested' object) := by
  refine .ifAccept (turns_plain rfl []) ?_ ?_
  · exact agree_name.return fun _ => by simp [stepGap]
  refine .ifAccept (turns_open rfl []) ?_ ?_
  · exact (arguments_agrees same true).return fun _ => by simp [stepGap]
  refine (agree_nextIs (turns_open rfl [])).andThen fun _ => .ite ?_ (agree_pure _ rfl)
  exact ((slices_agrees same).enclosed rfl).return fun _ => by simp [stepGap]

omit same in
theorem calm_trailer (nested : Nested) : Calm (trailer nested) := by
  intro object tail border
  have bracket : (tail.head? == some (Token.symbol .openBracket)) = false :=
    beq_false_of_ne (border.head?_ne rfl)
  simp only [trailer, acceptSymbol, nextIs, bind_apply, Option.bind_some, bracket,
    accept_other (border.head?_ne (show (Token.symbol .dot).isBorder = false from rfl)),
    accept_other (border.head?_ne (show (Token.symbol .openParen).isBorder = false from rfl)),
    Bool.false_eq_true, if_false, pure_apply]

theorem atom_matches : Matches (bound + 1) (atom nested) (atom nested') := by
  refine agree_peek ?_ ?_ (fun word => ?_) fun _ => agree_failure
  · intro word border
    rcases border_cases border with rfl | rfl | rfl | rfl | rfl | rfl <;> rfl
  · intro word border
    rcases border_cases border with rfl | rfl | rfl | rfl | rfl | rfl <;> rfl
  split
  all_goals first
    | exact agree_failure.from _
    | cases ‹some word = _›
      exact .skipOne rfl (agree_value _)
    | exact (quotations_matches same).from _
    | exact ((parenthesized_agrees same).enclosed rfl).from _
    | exact ((bracketed_agrees same).enclosed rfl).from _
    | exact ((braced_agrees same).enclosed rfl).from _

theorem primary_matches : Matches (bound + 1) (primary nested) (primary nested') :=
  (atom_matches same).taking fun start =>
    .grow (trailer_agrees same) (fun _ => ⟨calm_trailer nested, calm_trailer nested'⟩) start

theorem awaited_matches : Matches (bound + 1) (awaited nested) (awaited nested') :=
  .ifAccept (turns_plain rfl []) (((primary_matches same).fewer 1).return fun _ => Nat.le_refl _)
    (primary_matches same)

theorem power_matches : Matches (bound + 1) (power nested) (power nested') :=
  (awaited_matches same).andFewer fun _ => .ifAccept (turns_plain rfl [])
    ((same.factor.fewer 1).return fun _ => Nat.le_refl _) (agree_value _)

theorem factor_matches : Matches (bound + 1) (factor nested) (factor nested') := by
  have inner (op : UnaryOp) : Agree [] [] (fun _ => 0) bound
      (do return Expr.unary op (← nested.factor)) (do return Expr.unary op (← nested'.factor)) :=
    same.factor.loose.return fun _ => Nat.le_refl _
  exact .ifAccept (turns_plain rfl []) (inner _) (.ifAccept (turns_plain rfl []) (inner _)
    (.ifAccept (turns_plain rfl []) (inner _) (power_matches same)))

theorem term_matches : Matches (bound + 1) (term nested) (term nested') :=
  leftGrouped_matches termOp?_plain (factor_matches same)

theorem sum_matches : Matches (bound + 1) (sum nested) (sum nested') :=
  leftGrouped_matches sumOp?_plain (term_matches same)

theorem shift_matches : Matches (bound + 1) (shift nested) (shift nested') :=
  leftGrouped_matches shiftOp?_plain (sum_matches same)

theorem bitAnd_matches : Matches (bound + 1) (bitAnd nested) (bitAnd nested') :=
  leftGrouped_matches (only_plain rfl) (shift_matches same)

theorem bitXor_matches : Matches (bound + 1) (bitXor nested) (bitXor nested') :=
  leftGrouped_matches (only_plain rfl) (bitAnd_matches same)

theorem bitOr_matches : Matches (bound + 1) (bitOr nested) (bitOr nested') :=
  leftGrouped_matches (only_plain rfl) (bitXor_matches same)

/-- The comparison that the next two tokens begin with. -/
def comparisonAhead : Option Token → Option Token → Reader Comparison
  | some (.symbol .equal), _ => do skip 1; return .equal
  | some (.symbol .notEqual), _ => do skip 1; return .notEqual
  | some (.symbol .less), _ => do skip 1; return .less
  | some (.symbol .lessEqual), _ => do skip 1; return .lessEqual
  | some (.symbol .greater), _ => do skip 1; return .greater
  | some (.symbol .greaterEqual), _ => do skip 1; return .greaterEqual
  | some (.keyword .isWord), some (.keyword .notWord) => do skip 2; return .isNot
  | some (.keyword .isWord), _ => do skip 1; return .is
  | some (.keyword .inWord), _ => do skip 1; return .isIn
  | some (.keyword .notWord), some (.keyword .inWord) => do skip 2; return .notIn
  | _, _ => failure

omit same in
theorem blind_comparisonAhead : Blind₂ comparisonAhead := by
  constructor
  · intro word second border
    rcases border_cases border with rfl | rfl | rfl | rfl | rfl | rfl <;> rfl
  · intro found word border
    rcases border_cases border with rfl | rfl | rfl | rfl | rfl | rfl
    all_goals
      rcases found with _ | found
      next => rfl
      next =>
        cases found
        case symbol sign => cases sign <;> rfl
        case keyword one => cases one <;> rfl
        all_goals rfl

omit same in
theorem comparisonOp_matches : Matches bound comparisonOp comparisonOp := by
  refine agree_peek₂ blind_comparisonAhead blind_comparisonAhead (fun first second => ?_)
    (fun word => ?_) fun _ => agree_failure
  · split
    all_goals first
      | exact agree_failure.from _
      | cases ‹some first = _›
        exact .skipOne rfl (agree_value _)
      | cases ‹some first = _›
        cases ‹some second = _›
        exact .skipTwo rfl rfl (agree_value _)
  · split
    all_goals first
      | exact agree_failure.from _
      | cases ‹none = some _›
      | cases ‹some word = _›
        exact .skipOne rfl (agree_value _)

theorem comparison_matches : Matches (bound + 1) (comparison nested) (comparison nested') := by
  have next : Matches (bound + 1) (do let op ← comparisonOp; return (op, ← bitOr nested))
      (do let op ← comparisonOp; return (op, ← bitOr nested')) :=
    comparisonOp_matches.taking fun _ => (bitOr_matches same).loose.andThen fun _ => agree_value _
  exact (bitOr_matches same).taking fun _ => next.many.andThen fun _ => agree_value _

theorem inversion_matches : Matches (bound + 1) (inversion nested) (inversion nested') :=
  .ifAccept (turns_plain rfl []) (same.inversion.loose.return fun _ => Nat.le_refl _)
    (comparison_matches same)

theorem conjunction_matches : Matches (bound + 1) (conjunction nested) (conjunction nested') := by
  refine ((inversion_matches same).separated rfl).taking fun operands => ?_
  split
  next => exact agree_value _
  next => exact agree_value _

theorem disjunction_matches : Matches (bound + 1) (disjunction nested) (disjunction nested') := by
  refine ((conjunction_matches same).separated rfl).taking fun operands => ?_
  split
  next => exact agree_value _
  next => exact agree_value _

theorem lambda_matches : Matches (bound + 1) (lambda nested) (lambda nested') := by
  refine (agree_token (turns_plain rfl [])).andFewer fun _ => ?_
  refine (parameters_agrees same false (turns_plain rfl [])).andThen fun found => ?_
  exact (agree_token (turns_plain rfl [])).loose.andThen fun _ =>
    same.expression.loose.andThen fun _ => agree_value _

theorem expression_matches : Matches (bound + 1) (expression nested) (expression nested') := by
  refine (agree_nextIs (turns_plain rfl [])).andThen fun _ => .ite (lambda_matches same) ?_
  refine (disjunction_matches same).andFewer fun body => .ifAccept (turns_plain rfl []) ?_ (agree_value _)
  exact (same.disjunction.fewer 1).andThen fun _ =>
    (agree_token (turns_plain rfl [])).loose.andThen fun _ =>
      (same.expression.fewer 1).andThen fun _ => agree_value _

end Grammar

theorem matches_upTo (depth depth' : Nat) {bound : Nat} (low : bound ≤ depth) (low' : bound ≤ depth') :
    (Nested.upTo depth).Matches bound (Nested.upTo depth') := by
  induction bound generalizing depth depth' with
  | zero =>
    have nothing {reader reader' : Reader Expr} : Matches 0 reader reader' :=
      .bound_pos fun less => absurd less (Nat.lt_irrefl 0)
    exact ⟨nothing, nothing, nothing, nothing, nothing, nothing⟩
  | succ bound ih =>
    obtain ⟨depth, rfl⟩ := Nat.exists_eq_add_of_le' (Nat.le_trans (Nat.succ_pos bound) low)
    obtain ⟨depth', rfl⟩ := Nat.exists_eq_add_of_le' (Nat.le_trans (Nat.succ_pos bound) low')
    have same := ih depth depth' (Nat.le_of_succ_le_succ low) (Nat.le_of_succ_le_succ low')
    exact {
      expression := Grammar.expression_matches same
      disjunction := Grammar.disjunction_matches same
      inversion := Grammar.inversion_matches same
      bitOr := Grammar.bitOr_matches same
      factor := Grammar.factor_matches same
      primary := Grammar.primary_matches same }

end Stencil.Script
