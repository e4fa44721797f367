import Stencil.Proofs.Naming.Pattern
import Stencil.Proofs.Text.Unique
import Stencil.Script.Names

/-!
The statements that are read from a source bind names on one line only.
-/

set_option autoImplicit false
set_option mvcgen.warning false

namespace Stencil.Script

namespace Grammar

open Std.Do Reader

/-! ### Imports -/

@[spec] theorem dottedName_gives :
    Gives dottedName fun path => ∀ part ∈ path, part.Unbroken :=
  separated_gives _ name_gives

@[spec] theorem newName_gives : Gives newName fun found => ∀ name ∈ found, name.Unbroken := by
  mvcgen [newName]
  all_goals simp_all

theorem tidy_import {path : List Text} {new : Option Text}
    (parts : ∀ part ∈ path, part.Unbroken) (known : ∀ name ∈ new, name.Unbroken) :
    Import.Tidy ⟨path, new⟩ := by
  cases new with
  | none => exact fun name member => parts name (List.mem_of_mem_take member)
  | some new => simpa [Import.Tidy, Import.boundName] using known

@[spec] theorem importedModule_gives : Gives importedModule Import.Tidy := by
  mvcgen [importedModule]
  all_goals simp_all [tidy_import]

@[spec] theorem importedName_gives : Gives importedName Import.Tidy := by
  mvcgen [importedName]
  all_goals simp_all [tidy_import]

@[spec] theorem dots_gives : Gives dots fun _ => True := by
  refine grow_gives (fun count _ => ?_) trivial
  mvcgen
  all_goals simp_all

@[spec] theorem selection_gives :
    Gives selection fun found => ∀ names, found = .names names → ∀ one ∈ names, one.Tidy := by
  have items := commaList_gives importedName_gives
  have several := separated_gives (.symbol .comma) importedName_gives
  mvcgen [selection, items, several]
  all_goals simp_all

@[spec] theorem importFrom_gives : Gives importFrom Stmt.Tidy := by
  have path := possibly_gives dottedName_gives
  mvcgen [importFrom, path]
  all_goals simp_all

@[spec] theorem nameList_gives : Gives nameList fun _ => True := by
  have names := separated_gives (.symbol .comma) name_gives
  mvcgen [nameList, names]
  all_goals simp_all

/-! ### Simple statements -/

theorem possiblyAfter_gives {reader : Reader Expr} (gives : Gives reader Expr.Tidy)
    (found : Bool) : Gives (possiblyAfter found reader) fun value => ∀ one ∈ value, one.Tidy := by
  mvcgen [possiblyAfter, gives]
  all_goals simp_all

variable {nested : Nested} (tidy : nested.Tidy)

include tidy

theorem assignedValue_gives : Gives (assignedValue nested) Expr.Tidy := by
  have yields := yieldExpression_gives tidy
  have starred := starExpressions_gives tidy
  mvcgen [assignedValue, yields, starred]
  all_goals simp_all

theorem moreTargets_gives {found : List Expr × Expr} (targets : ∀ target ∈ found.1, target.Tidy)
    (value : found.2.Tidy) : Gives (moreTargets nested found) fun next =>
      ∀ found ∈ next, (∀ target ∈ found.1, target.Tidy) ∧ found.2.Tidy := by
  have assigned := assignedValue_gives tidy
  mvcgen [moreTargets, assigned]
  all_goals simp_all

theorem expressionStatement_gives : Gives (expressionStatement nested) Stmt.Tidy := by
  have starred := starExpressions_gives tidy
  have expression := tidy.expression
  have assigned := assignedValue_gives tidy
  have targets {first : Expr} (known : first.Tidy) :
      Gives (grow (moreTargets nested) ([], first)) fun found =>
        (∀ target ∈ found.1, target.Tidy) ∧ found.2.Tidy :=
    grow_gives (fun _ known => moreTargets_gives tidy known.1 known.2) ⟨by simp, known⟩
  mvcgen [expressionStatement, starred, expression, assigned, targets]
  all_goals simp_all

theorem deletion_gives : Gives (deletion nested) Stmt.Tidy := by
  have primary := tidy.primary
  have one : Gives (do
      let target ← nested.primary
      guard (isDeletable target)
      return target) Expr.Tidy := by
    mvcgen [primary]
    all_goals simp_all
  have targets := commaList_gives one
  mvcgen [deletion, targets]
  all_goals simp_all

theorem simpleStatement_gives : Gives (simpleStatement nested) Stmt.Tidy := by
  have expression := tidy.expression
  have yields := yieldExpression_gives tidy
  have starred := possibly_gives (starExpressions_gives tidy)
  have error := possibly_gives tidy.expression
  have cause := possiblyAfter_gives tidy.expression
  have removal := deletion_gives tidy
  have modules := separated_gives (.symbol .comma) importedModule_gives
  have other := expressionStatement_gives tidy
  mvcgen [simpleStatement, expression, yields, starred, error, cause, removal, modules, other]
  -- What the parts give has been applied by now, and is left out of the simplification.
  all_goals clear expression yields starred error cause removal modules other
  all_goals simp_all

theorem simpleStatements_gives :
    Gives (simpleStatements nested) fun found => ∀ one ∈ found, one.Tidy := by
  have found := separated_gives (.symbol .semicolon) (simpleStatement_gives tidy)
  mvcgen [simpleStatements, found]
  all_goals simp_all

/-! ### Blocks -/

/-- A test with the statements behind it. -/
def TidyTest (tested : Expr × List Stmt) : Prop :=
  tested.1.Tidy ∧ ∀ inner ∈ tested.2, inner.Tidy

/-- What a with statement enters, with the target that it is given to. -/
def TidyItem (item : Expr × Option Expr) : Prop :=
  item.1.Tidy ∧ ∀ target ∈ item.2, target.Tidy

variable {statements : Reader (List Stmt)}
  (gives : Gives statements fun found => ∀ inner ∈ found, inner.Tidy)

include gives

theorem block_gives :
    Gives (block nested statements) fun found => ∀ inner ∈ found, inner.Tidy := by
  have simple := simpleStatements_gives tidy
  mvcgen [block, simple, gives]
  all_goals simp_all

theorem colonBlock_gives :
    Gives (colonBlock nested statements) fun found => ∀ inner ∈ found, inner.Tidy := by
  have block := block_gives tidy gives
  mvcgen [colonBlock, block]
  all_goals simp_all

theorem elseBlock_gives :
    Gives (elseBlock nested statements) fun found => ∀ inner ∈ found, inner.Tidy := by
  have block := colonBlock_gives tidy gives
  mvcgen [elseBlock, block]
  all_goals simp_all

theorem testedBlock_gives : Gives (testedBlock nested statements) TidyTest := by
  have test := namedExpression_gives tidy.expression
  have block := colonBlock_gives tidy gives
  mvcgen [testedBlock, test, block]
  all_goals simp_all [TidyTest]

omit tidy gives in
/-- Each alternative is a statement of its own. -/
theorem tidy_alternatives {last : List Stmt} (final : ∀ inner ∈ last, inner.Tidy)
    {others : List (Expr × List Stmt)} (all : ∀ other ∈ others, TidyTest other) :
    ∀ inner ∈ others.foldr (fun other rest => [Stmt.branch other.1 other.2 rest]) last,
      inner.Tidy := by
  induction others with
  | nil => exact final
  | cons other others ih =>
    obtain ⟨first, later⟩ := List.forall_mem_cons.mp all
    exact List.forall_mem_singleton.mpr (Stmt.tidy_branch first.1 first.2 (ih later))

theorem ifStatement_gives : Gives (ifStatement nested statements) Stmt.Tidy := by
  have tested := testedBlock_gives tidy gives
  have other : Gives (do keyword .elifWord; testedBlock nested statements) TidyTest := by
    mvcgen [tested]
    all_goals simp_all
  have others := many_gives other
  have last := elseBlock_gives tidy gives
  mvcgen [ifStatement, tested, others, last]
  all_goals simp_all
  next first others last _ =>
    exact Stmt.tidy_branch first.2.1 first.2.2
      (tidy_alternatives last.2 fun other => others.2 other.1 other.2)

theorem whileStatement_gives : Gives (whileStatement nested statements) Stmt.Tidy := by
  have tested := testedBlock_gives tidy gives
  have last := elseBlock_gives tidy gives
  mvcgen [whileStatement, tested, last]
  all_goals simp_all [TidyTest]

theorem forStatement_gives (async : Bool) :
    Gives (forStatement nested statements async) Stmt.Tidy := by
  have target := starTargets_gives tidy
  have iterable := starExpressions_gives tidy
  have body := colonBlock_gives tidy gives
  have last := elseBlock_gives tidy gives
  mvcgen [forStatement, target, iterable, body, last]
  all_goals simp_all

omit gives in
theorem withItem_gives : Gives (withItem nested) TidyItem := by
  have manager := tidy.expression
  have target := starTarget_gives tidy
  mvcgen [withItem, manager, target]
  all_goals simp_all [TidyItem]

omit gives in
theorem withGroup_gives : Gives (withGroup nested) fun items => ∀ item ∈ items, TidyItem item := by
  have items := enclosed_gives .openParen .closeParen (commaList_gives (withItem_gives tidy))
  mvcgen [withGroup, items]
  all_goals simp_all

theorem withStatement_gives (async : Bool) :
    Gives (withStatement nested statements async) Stmt.Tidy := by
  have items := orElse_gives (withGroup_gives tidy)
    (separated_gives (.symbol .comma) (withItem_gives tidy))
  have body := colonBlock_gives tidy gives
  mvcgen [withStatement, items, body]
  all_goals simp_all
  next items body _ =>
    exact Stmt.tidy_withBlock async (fun item => items.2 item.1 item.2) body.2

theorem handler_gives (grouped : Bool) : Gives (handler nested statements grouped) Handler.Tidy := by
  have type := tidy.expression
  have body := colonBlock_gives tidy gives
  mvcgen [handler, type, body]
  all_goals simp_all [Handler.Tidy]

theorem finalBlock_gives :
    Gives (finalBlock nested statements) fun found => ∀ inner ∈ found, inner.Tidy := by
  have body := colonBlock_gives tidy gives
  mvcgen [finalBlock, body]
  all_goals simp_all

theorem tryStatement_gives : Gives (tryStatement nested statements) Stmt.Tidy := by
  have body := colonBlock_gives tidy gives
  have handlers (grouped : Bool) := many1_gives (handler_gives tidy gives grouped)
  have last := elseBlock_gives tidy gives
  have final := finalBlock_gives tidy gives
  mvcgen [tryStatement, body, handlers, last, final]
  all_goals simp_all

/-! ### Definitions -/

theorem functionDefinition_gives (decorators : List Expr) (async : Bool) :
    Gives (functionDefinition nested statements decorators async) Stmt.Tidy := by
  have found := enclosed_gives .openParen .closeParen (parameters_gives tidy true .closeParen)
  have returns := possiblyAfter_gives tidy.expression
  have body := colonBlock_gives tidy gives
  mvcgen [functionDefinition, found, returns, body]
  all_goals simp_all

theorem classDefinition_gives (decorators : List Expr) :
    Gives (classDefinition nested statements decorators) Stmt.Tidy := by
  have found := arguments_gives tidy false
  have body := colonBlock_gives tidy gives
  mvcgen [classDefinition, found, body]
  all_goals simp_all

theorem definition_gives (decorators : List Expr) :
    Gives (definition nested statements decorators) Stmt.Tidy := by
  have function := functionDefinition_gives tidy gives decorators
  have type := classDefinition_gives tidy gives decorators
  mvcgen [definition, function, type]
  all_goals simp_all

theorem decorated_gives : Gives (decorated nested statements) Stmt.Tidy := by
  have value := namedExpression_gives tidy.expression
  have decorator : Gives (do
      symbol .atSign
      let value ← namedExpression nested.expression
      token .newline
      return value) Expr.Tidy := by
    mvcgen [value]
    all_goals simp_all
  have decorators := many1_gives decorator
  have defined := definition_gives tidy gives
  mvcgen [decorated, decorators, defined]
  all_goals simp_all

theorem asyncStatement_gives : Gives (asyncStatement nested statements) Stmt.Tidy := by
  have withs := withStatement_gives tidy gives
  have loop := forStatement_gives tidy gives
  have defined := definition_gives tidy gives
  mvcgen [asyncStatement, withs, loop, defined]
  all_goals simp_all

/-! ### Matches -/

omit gives in
theorem subject_gives : Gives (subject nested) Expr.Tidy := by
  have items := commaList_gives (starNamed_gives tidy)
  mvcgen [subject, items]
  all_goals simp_all [tidy_tupleOf]

omit gives in
theorem matchHeader_gives : Gives (matchHeader nested) Expr.Tidy := by
  have subject := subject_gives tidy
  mvcgen [matchHeader, subject]
  all_goals simp_all

theorem caseBlock_gives (depth : Nat) : Gives (caseBlock nested statements depth) Case.Tidy := by
  have pattern := openSequence_gives (patternUpTo_gives tidy depth)
  have condition := possiblyAfter_gives (namedExpression_gives tidy.expression)
  have body := colonBlock_gives tidy gives
  mvcgen [caseBlock, pattern, condition, body]
  all_goals simp_all [Case.Tidy]

theorem matchStatement_gives (depth : Nat) :
    Gives (matchStatement nested statements depth) Stmt.Tidy := by
  have subject := matchHeader_gives tidy
  have cases := many1_gives (caseBlock_gives tidy gives depth)
  mvcgen [matchStatement, subject, cases]
  all_goals simp_all

/-! ### All statements -/

theorem statement_gives (depth : Nat) :
    Gives (statement nested statements depth) fun found => ∀ one ∈ found, one.Tidy := by
  have branch := ifStatement_gives tidy gives
  have loop := whileStatement_gives tidy gives
  have each := forStatement_gives tidy gives
  have withs := withStatement_gives tidy gives
  have tried := tryStatement_gives tidy gives
  have defined := definition_gives tidy gives
  have async := asyncStatement_gives tidy gives
  have decorators := decorated_gives tidy gives
  have simple := simpleStatements_gives tidy
  have matched := matchStatement_gives tidy gives depth
  have either : Gives ((do return [← matchStatement nested statements depth]) <|>
      simpleStatements nested) fun found => ∀ one ∈ found, one.Tidy := by
    refine orElse_gives ?_ simple
    mvcgen [matched]
    all_goals simp_all
  mvcgen [statement, branch, loop, each, withs, tried, defined, async, decorators, simple, either]
  all_goals simp_all

omit gives in
theorem statementsUpTo_gives (depth : Nat) :
    Gives (statementsUpTo nested depth) fun found => ∀ one ∈ found, one.Tidy := by
  induction depth with
  | zero => exact failure_gives _
  | succ depth ih =>
    have several := many1_gives (statement_gives tidy ih (depth + 1))
    mvcgen [statementsUpTo, several]
    all_goals simp_all
    next all => exact fun one statements inside member => all.2 statements inside one member

end Grammar

theorem tidy_parseModule {source : Text} {found : List Stmt}
    (parsed : parseModule source = some found) : ∀ one ∈ found, one.Tidy := by
  obtain ⟨tokens, lexed, parsed⟩ := Option.bind_eq_some_iff.mp parsed
  split at parsed
  next =>
    cases parsed
    simp
  next =>
    obtain ⟨⟨statements, rest⟩, read, parsed⟩ := Option.bind_eq_some_iff.mp parsed
    obtain ⟨_, _, parsed⟩ := Option.bind_eq_some_iff.mp parsed
    cases parsed
    have gives := Grammar.statementsUpTo_gives (tidy_upTo (source.length + 1)) (source.length + 1)
    exact (gives_iff.mp gives tokens (Lexer.tidy_statementTokens lexed) _ _ read).2

/-- Whatever the text of a statement, no name that it binds has a line break in it. -/
theorem unbroken_assignedNames {code : Text} {names : List Text}
    (found : assignedNames code = .ok names) : ∀ name ∈ names, name.Unbroken := by
  unfold assignedNames at found
  split at found
  next statements read =>
    split at found
    next => cases found
    next =>
      cases found
      intro name member
      obtain ⟨one, inside, bound⟩ := List.mem_flatMap.mp (Text.mem_sortUnique.mp member)
      unfold readModule at read
      split at read
      next => cases read
      next =>
        split at read
        next parsed =>
          cases read
          exact tidy_parseModule parsed one inside name bound
        next => cases read
  next =>
    cases found
    simp
  next => cases found

end Stencil.Script
