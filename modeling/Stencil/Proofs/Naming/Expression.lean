import Mathlib
import Stencil.Proofs.Naming.Reader
import Stencil.Proofs.Naming.Tree
import Stencil.Script.Grammar.Expression
import Stencil.Script.Grammar.Formatted

/-!
Expressions that are read from tidy words bind names on one line only. Each reader is tidy if the
readers are that it takes for what is within, the fields of formatted strings among them.
-/

set_option autoImplicit false
set_option mvcgen.warning false

/-! ### Fields of formatted strings -/

namespace Stencil.Script

open Std.Do

variable {α β : Type}

abbrev Finds (found : Option α) (p : α → Prop) : Prop := ⦃⌜True⌝⦄ found ⦃⇓? value => ⌜p value⌝⦄

theorem finds_iff {found : Option α} {p : α → Prop} :
    Finds found p ↔ ∀ value, found = some value → p value := by
  simp only [Finds, Triple]
  constructor
  · intro finds value same
    have given := finds trivial
    simp only [wp, PredTrans.apply, same] at given
    exact given
  · intro finds _
    simp only [wp, PredTrans.apply]
    cases same : found with
    | none => trivial
    | some value => exact finds value same

theorem finds_any (found : Option α) : Finds found fun _ => True :=
  finds_iff.mpr fun _ _ => trivial

@[spec] theorem some_spec {post : PostCond α (.except PUnit .pure)} (value : α) :
    ⦃post.1 value⦄ (some value : Option α) ⦃post⦄ := fun holds => holds

theorem mem_mapM {read : α → Option β} {items : List α} {results : List β}
    (found : items.mapM read = some results) {result : β} (member : result ∈ results) :
    ∃ item ∈ items, read item = some result := by
  induction items generalizing results with
  | nil =>
    cases found
    cases member
  | cons item rest ih =>
    rw [List.mapM_cons] at found
    obtain ⟨first, read, found⟩ := Option.bind_eq_some_iff.mp found
    obtain ⟨others, more, found⟩ := Option.bind_eq_some_iff.mp found
    cases found
    rcases List.mem_cons.mp member with rfl | later
    · exact ⟨item, List.mem_cons_self .., read⟩
    · obtain ⟨other, inside, same⟩ := ih more later
      exact ⟨other, List.mem_cons_of_mem _ inside, same⟩

namespace Formatted

variable {read : Text → Option Expr}

theorem format?_finds {inner : Text → Option (List Part × Text)}
    (finds : ∀ text, Finds (inner text) fun found => ∀ part ∈ found.1, part.Tidy) (text : Text) :
    Finds (format? inner text) fun found => ∀ one ∈ found.1, one.Tidy := by
  refine finds_iff.mpr fun found same => ?_
  unfold format? at same
  split at same
  next spec =>
    obtain ⟨⟨parts, after⟩, known, rfl⟩ := Option.map_eq_some_iff.mp same
    rintro one ⟨⟩
    exact Expr.tidy_formatted (finds_iff.mp (finds spec) _ known)
  next =>
    cases same
    rintro one ⟨⟩

theorem parts_finds (reads : ∀ text, Finds (read text) Expr.Tidy) (raw : Bool) (fuel level : Nat)
    (text : Text) :
    Finds (parts read raw fuel level text) fun found => ∀ part ∈ found.1, part.Tidy := by
  induction fuel generalizing level text with
  | zero => exact finds_iff.mpr fun _ found => nomatch found
  | succ fuel ih =>
    have fixed (nested : Bool) (fuel : Nat) (text : Text) :=
      finds_any (fixedText raw nested fuel text)
    have meant (text : Text) := finds_any (meaning? raw text)
    have format (level : Nat) (text : Text) := format?_finds (ih level) text
    have checked (condition : Prop) [Decidable condition] :=
      finds_any (guard condition : Option Unit)
    have field (fuel : Nat) (state : FieldScan) (text : Text) :=
      finds_any (fieldText fuel state text)
    have conversion (text : Text) := finds_any (conversion? text)
    mvcgen [parts, ih, reads, fixed, meant, checked, field, conversion, format]
    all_goals simp_all +zetaDelta [or_imp]

theorem tidy_parts (reads : ∀ text value, read text = some value → value.Tidy) {raw : Bool}
    {text : Text} {found : List Part} (known : parts? read raw text = some found) :
    ∀ part ∈ found, part.Tidy := by
  obtain ⟨⟨pieces, rest⟩, parsed, known⟩ := Option.bind_eq_some_iff.mp known
  obtain ⟨_, _, known⟩ := Option.bind_eq_some_iff.mp known
  cases known
  exact finds_iff.mp (parts_finds (fun text => finds_iff.mpr (reads text)) raw _ 0 text) _ parsed

end Formatted

end Stencil.Script

/-! ### Expressions -/

namespace Stencil.Script

open Std.Do Reader

/-- Readers for what is within that give tidy expressions. -/
structure Nested.Tidy (nested : Nested) : Prop where
  expression : Gives nested.expression Expr.Tidy
  disjunction : Gives nested.disjunction Expr.Tidy
  inversion : Gives nested.inversion Expr.Tidy
  bitOr : Gives nested.bitOr Expr.Tidy
  factor : Gives nested.factor Expr.Tidy
  primary : Gives nested.primary Expr.Tidy

namespace Grammar

theorem tidy_tupleOf {items : List Expr} (all : ∀ item ∈ items, item.Tidy) (comma : Bool) :
    (tupleOf items comma).Tidy := by
  unfold tupleOf
  split
  next item =>
    split
    next => exact Expr.tidy_tuple all
    next => exact all item (List.mem_singleton.mpr rfl)
  next => exact Expr.tidy_tuple all

theorem namedExpression_gives {expression : Reader Expr} (gives : Gives expression Expr.Tidy) :
    Gives (namedExpression expression) Expr.Tidy := by
  mvcgen [namedExpression, gives]
  all_goals simp_all

@[spec] theorem clausesFollow_gives : Gives clausesFollow fun _ => True := by
  mvcgen [clausesFollow]
  all_goals simp_all

@[spec] theorem quotation_gives : Gives quotation fun _ => True := by
  refine gives_iff.mpr fun tokens tidy value rest found => ⟨?_, trivial⟩
  unfold quotation at found
  split at found
  next =>
    cases found
    exact (tidy_cons.mp tidy).2
  next => cases found

theorem tidy_joinFixed {parts : List (FormatPart Expr)} (all : ∀ part ∈ parts, part.Tidy) :
    ∀ part ∈ joinFixed parts, part.Tidy := by
  induction parts with
  | nil => simp [joinFixed]
  | cons part rest ih =>
    obtain ⟨first, others⟩ := List.forall_mem_cons.mp all
    have joined := ih others
    cases part with
    | field => exact List.forall_mem_cons.mpr ⟨first, joined⟩
    | fixed points =>
      rw [joinFixed]
      split
      next more behind same =>
        rw [same] at joined
        exact List.forall_mem_cons.mpr
          ⟨FormatPart.tidy_fixed _, (List.forall_mem_cons.mp joined).2⟩
      next => exact List.forall_mem_cons.mpr ⟨first, joined⟩

theorem tidy_quotationsValue {read : Text → Option Expr}
    (reads : ∀ text value, read text = some value → value.Tidy) {quotations : List Quotation}
    {value : Expr} (found : quotationsValue read quotations = some value) : value.Tidy := by
  unfold quotationsValue at found
  split at found
  next =>
    obtain ⟨_, _, found⟩ := Option.bind_eq_some_iff.mp found
    obtain ⟨pieces, _, found⟩ := Option.bind_eq_some_iff.mp found
    cases found
    exact Expr.tidy_constant _
  next =>
    split at found
    next =>
      obtain ⟨pieces, written, found⟩ := Option.bind_eq_some_iff.mp found
      cases found
      refine Expr.tidy_formatted (tidy_joinFixed fun part member => ?_)
      obtain ⟨piece, inside, known⟩ := List.mem_flatten.mp member
      obtain ⟨quotation, _, same⟩ := mem_mapM written inside
      split at same
      next => exact Formatted.tidy_parts reads same part known
      next =>
        obtain ⟨points, _, rfl⟩ := Option.map_eq_some_iff.mp same
        cases List.mem_singleton.mp known
        exact FormatPart.tidy_fixed points
    next =>
      obtain ⟨pieces, _, found⟩ := Option.bind_eq_some_iff.mp found
      cases found
      exact Expr.tidy_constant _

theorem leftGrouped_gives (op? : Token → Option BinaryOp) {operand : Reader Expr}
    (gives : Gives operand Expr.Tidy) : Gives (leftGrouped op? operand) Expr.Tidy := by
  unfold leftGrouped
  refine bind_gives gives fun first known => grow_gives (fun left so => possibly_gives ?_) known
  mvcgen [gives]
  all_goals simp_all

@[spec] theorem comparisonOp_gives : Gives comparisonOp fun _ => True := by
  mvcgen [comparisonOp]
  all_goals simp_all

variable {nested : Nested} (tidy : nested.Tidy)

include tidy

theorem starOr_gives {other : Reader Expr} (gives : Gives other Expr.Tidy) :
    Gives (starOr nested other) Expr.Tidy := by
  have bitOr := tidy.bitOr
  mvcgen [starOr, gives, bitOr]
  all_goals simp_all

theorem starNamed_gives : Gives (starNamed nested) Expr.Tidy :=
  starOr_gives tidy (namedExpression_gives tidy.expression)

theorem starExpressions_gives : Gives (starExpressions nested) Expr.Tidy := by
  have items := commaList_gives (starOr_gives tidy tidy.expression)
  mvcgen [starExpressions, items]
  all_goals simp_all [tidy_tupleOf]

theorem yieldExpression_gives : Gives (yieldExpression nested) Expr.Tidy := by
  have expression := tidy.expression
  have several := possibly_gives (starExpressions_gives tidy)
  mvcgen [yieldExpression, expression, several]
  all_goals simp_all

theorem starTarget_gives : Gives (starTarget nested) Expr.Tidy := by
  have primary := tidy.primary
  mvcgen [starTarget, primary]
  all_goals simp_all

theorem starTargets_gives : Gives (starTargets nested) Expr.Tidy := by
  have items := commaList_gives (starTarget_gives tidy)
  mvcgen [starTargets, items]
  all_goals simp_all [tidy_tupleOf]

/-! ### Comprehensions -/

/-- What a comprehension binds belongs to it alone. -/
theorem clause_gives : Gives (clause nested) fun _ => True := by
  have targets := starTargets_gives tidy
  have disjunction := tidy.disjunction
  have condition : Gives (do keyword .ifWord; nested.disjunction) Expr.Tidy := by
    mvcgen [disjunction]
    all_goals simp_all
  have conditions := many_gives condition
  mvcgen [clause, targets, disjunction, conditions]
  all_goals simp_all

theorem comprehensionOf_gives (kind : ComprehensionKind) (element : Expr) (value : Option Expr) :
    Gives (comprehensionOf nested kind element value) Expr.Tidy := by
  have clauses := many1_gives (clause_gives tidy)
  unfold comprehensionOf
  split
  next => exact failure_gives _
  next =>
    mvcgen [clauses]
    all_goals simp_all

/-! ### Arguments and parameters -/

theorem argument_gives (phase : ArgumentPhase) :
    Gives (argument nested phase) fun found => found.1.Tidy := by
  have expression := tidy.expression
  have named := namedExpression_gives tidy.expression
  mvcgen [argument, expression, named]
  all_goals simp_all

theorem moreArguments_gives {found : List (Argument Expr) × ArgumentPhase}
    (known : ∀ argument ∈ found.1, argument.Tidy) :
    Gives (moreArguments nested found) fun next => ∀ found ∈ next, ∀ argument ∈ found.1, argument.Tidy := by
  have one := argument_gives tidy found.2
  refine possibly_gives ?_
  mvcgen [one]
  all_goals simp_all

theorem arguments_gives (comprehensions : Bool) :
    Gives (arguments nested comprehensions) fun found => ∀ argument ∈ found, argument.Tidy := by
  have first := argument_gives tidy .positional
  have comprehension := comprehensionOf_gives tidy .generator
  have others {start : List (Argument Expr) × ArgumentPhase} (known : ∀ argument ∈ start.1, argument.Tidy) :
      Gives (grow (moreArguments nested) start) fun found => ∀ argument ∈ found.1, argument.Tidy :=
    grow_gives (fun _ => moreArguments_gives tidy) known
  mvcgen [arguments, first, comprehension, others]
  -- What the parts give has been applied by now, and is left out of the simplification.
  all_goals clear first comprehension others
  all_goals simp_all

theorem parameterItem_gives (typed : Bool) : Gives (parameterItem nested typed) fun _ => True := by
  have expression := tidy.expression
  have starred := starOr_gives tidy tidy.expression
  mvcgen [parameterItem, expression, starred]
  all_goals simp_all

/-- The parameters of a lambda are names of its own. -/
theorem parameters_gives (typed : Bool) (closing : Symbol) :
    Gives (parameters nested typed closing) fun _ => True := by
  have items := commaList_gives (parameterItem_gives tidy typed)
  mvcgen [parameters, items]
  all_goals simp_all

/-! ### Brackets -/

theorem moreItems_gives : Gives (moreItems nested) fun found => ∀ item ∈ found.1, item.Tidy := by
  have named := starNamed_gives tidy
  have next : Gives (do symbol .comma; starNamed nested) Expr.Tidy := by
    mvcgen [named]
    all_goals simp_all
  have others := many_gives next
  mvcgen [moreItems, others]
  all_goals simp_all

theorem parenthesized_gives : Gives (parenthesized nested) Expr.Tidy := by
  have yields := yieldExpression_gives tidy
  have named := starNamed_gives tidy
  have comprehension := comprehensionOf_gives tidy .generator
  have others := moreItems_gives tidy
  mvcgen [parenthesized, yields, named, comprehension, others]
  all_goals simp_all

theorem bracketed_gives : Gives (bracketed nested) Expr.Tidy := by
  have named := starNamed_gives tidy
  have comprehension := comprehensionOf_gives tidy .list
  have others := moreItems_gives tidy
  mvcgen [bracketed, named, comprehension, others]
  all_goals simp_all

theorem dictItem_gives : Gives (dictItem nested) DictItem.Tidy := by
  have bitOr := tidy.bitOr
  have expression := tidy.expression
  mvcgen [dictItem, bitOr, expression]
  all_goals simp_all

theorem moreDictItems_gives :
    Gives (moreDictItems nested) fun found => ∀ item ∈ found, item.Tidy := by
  have item := dictItem_gives tidy
  have next : Gives (do symbol .comma; dictItem nested) DictItem.Tidy := by
    mvcgen [item]
    all_goals simp_all
  have others := many_gives next
  mvcgen [moreDictItems, others]
  all_goals simp_all

theorem braced_gives : Gives (braced nested) Expr.Tidy := by
  have item := dictItem_gives tidy
  have others := moreDictItems_gives tidy
  have named := starNamed_gives tidy
  have expression := tidy.expression
  have comprehension := comprehensionOf_gives tidy
  have more := moreItems_gives tidy
  mvcgen [braced, item, others, named, expression, comprehension, more]
  all_goals simp_all

theorem sliceRest_gives {lower : Option Expr} (known : ∀ value ∈ lower, value.Tidy) :
    Gives (sliceRest nested lower) Expr.Tidy := by
  have bound := possibly_gives tidy.expression
  mvcgen [sliceRest, bound]
  all_goals simp_all

theorem sliceItem_gives : Gives (sliceItem nested) Expr.Tidy := by
  have expression := tidy.expression
  have named := namedExpression_gives tidy.expression
  have rest {lower : Option Expr} (known : ∀ value ∈ lower, value.Tidy) :=
    sliceRest_gives tidy known
  mvcgen [sliceItem, expression, named, rest]
  all_goals clear expression named rest
  all_goals simp_all

theorem slices_gives : Gives (slices nested) Expr.Tidy := by
  have items := commaList_gives (sliceItem_gives tidy)
  mvcgen [slices, items]
  all_goals simp_all [tidy_tupleOf]

/-! ### Atoms -/

theorem tidy_readField {text : Text} {value : Expr} (found : readField nested text = some value) :
    value.Tidy := by
  obtain ⟨tokens, lexed, found⟩ := Option.bind_eq_some_iff.mp found
  obtain ⟨⟨read, rest⟩, parsed, found⟩ := Option.bind_eq_some_iff.mp found
  obtain ⟨_, _, found⟩ := Option.bind_eq_some_iff.mp found
  cases found
  exact (gives_iff.mp tidy.primary _ (Lexer.tidy_statementTokens lexed) _ _ parsed).2

theorem quotations_gives : Gives (quotations nested) Expr.Tidy := by
  have found := many1_gives quotation_gives
  mvcgen [quotations, found]
  all_goals simp_all
  exact tidy_quotationsValue (fun _ _ => tidy_readField tidy) ‹_›

theorem atom_gives : Gives (atom nested) Expr.Tidy := by
  have quoted := quotations_gives tidy
  have parentheses := enclosed_gives .openParen .closeParen (parenthesized_gives tidy)
  have brackets := enclosed_gives .openBracket .closeBracket (bracketed_gives tidy)
  have braces := enclosed_gives .openBrace .closeBrace (braced_gives tidy)
  mvcgen [atom, quoted, parentheses, brackets, braces]
  all_goals simp_all

/-! ### Operators -/

theorem trailer_gives {object : Expr} (known : object.Tidy) :
    Gives (trailer nested object) fun found => ∀ value ∈ found, value.Tidy := by
  have passed := arguments_gives tidy true
  have index := enclosed_gives .openBracket .closeBracket (slices_gives tidy)
  mvcgen [trailer, passed, index]
  all_goals simp_all

theorem primary_gives : Gives (primary nested) Expr.Tidy := by
  have atom := atom_gives tidy
  have trailers {start : Expr} (known : start.Tidy) : Gives (grow (trailer nested) start) Expr.Tidy :=
    grow_gives (fun _ => trailer_gives tidy) known
  mvcgen [primary, atom, trailers]
  all_goals simp_all

theorem awaited_gives : Gives (awaited nested) Expr.Tidy := by
  have primary := primary_gives tidy
  mvcgen [awaited, primary]
  all_goals simp_all

theorem power_gives : Gives (power nested) Expr.Tidy := by
  have base := awaited_gives tidy
  have factor := tidy.factor
  mvcgen [power, base, factor]
  all_goals simp_all

theorem factor_gives : Gives (factor nested) Expr.Tidy := by
  have inner := tidy.factor
  have power := power_gives tidy
  mvcgen [factor, inner, power]
  all_goals simp_all

theorem term_gives : Gives (term nested) Expr.Tidy := leftGrouped_gives _ (factor_gives tidy)

theorem sum_gives : Gives (sum nested) Expr.Tidy := leftGrouped_gives _ (term_gives tidy)

theorem shift_gives : Gives (shift nested) Expr.Tidy := leftGrouped_gives _ (sum_gives tidy)

theorem bitAnd_gives : Gives (bitAnd nested) Expr.Tidy := leftGrouped_gives _ (shift_gives tidy)

theorem bitXor_gives : Gives (bitXor nested) Expr.Tidy := leftGrouped_gives _ (bitAnd_gives tidy)

theorem bitOr_gives : Gives (bitOr nested) Expr.Tidy := leftGrouped_gives _ (bitXor_gives tidy)

theorem comparison_gives : Gives (comparison nested) Expr.Tidy := by
  have operand := bitOr_gives tidy
  have next : Gives (do let op ← comparisonOp; return (op, ← bitOr nested))
      fun pair => pair.2.Tidy := by
    mvcgen [operand]
    all_goals simp_all
  have others := many_gives next
  mvcgen [comparison, operand, others]
  all_goals simp_all
  next known all => exact Expr.tidy_ite known.2 (Expr.tidy_compare known.2 all.2)

theorem inversion_gives : Gives (inversion nested) Expr.Tidy := by
  have inner := tidy.inversion
  have comparison := comparison_gives tidy
  mvcgen [inversion, inner, comparison]
  all_goals simp_all

theorem conjunction_gives : Gives (conjunction nested) Expr.Tidy := by
  have operands := separated_gives (.keyword .andWord) (inversion_gives tidy)
  mvcgen [conjunction, operands]
  all_goals simp_all

theorem disjunction_gives : Gives (disjunction nested) Expr.Tidy := by
  have operands := separated_gives (.keyword .orWord) (conjunction_gives tidy)
  mvcgen [disjunction, operands]
  all_goals simp_all

theorem lambda_gives : Gives (lambda nested) Expr.Tidy := by
  have found := parameters_gives tidy false .colon
  have expression := tidy.expression
  mvcgen [lambda, found, expression]
  all_goals simp_all

theorem expression_gives : Gives (expression nested) Expr.Tidy := by
  have lambda := lambda_gives tidy
  have body := disjunction_gives tidy
  have test := tidy.disjunction
  have other := tidy.expression
  mvcgen [expression, lambda, body, test, other]
  all_goals simp_all

end Grammar

/-- Readers of every depth give tidy expressions. -/
theorem tidy_upTo (depth : Nat) : (Nested.upTo depth).Tidy := by
  induction depth with
  | zero =>
    exact ⟨failure_gives _, failure_gives _, failure_gives _, failure_gives _, failure_gives _,
      failure_gives _⟩
  | succ depth ih =>
    exact {
      expression := Grammar.expression_gives ih
      disjunction := Grammar.disjunction_gives ih
      inversion := Grammar.inversion_gives ih
      bitOr := Grammar.bitOr_gives ih
      factor := Grammar.factor_gives ih
      primary := Grammar.primary_gives ih }

end Stencil.Script
