import Stencil.Proofs.Naming.Expression
import Stencil.Script.Grammar.Pattern

/-!
The expressions in the patterns of a match statement are tidy too.
-/

set_option autoImplicit false
set_option mvcgen.warning false

namespace Stencil.Script

namespace Grammar

open Std.Do Reader

@[spec] theorem captureTarget_gives : Gives captureTarget fun _ => True := by
  mvcgen [captureTarget]
  all_goals simp_all

@[spec] theorem numberLiteral_gives : Gives numberLiteral fun _ => True := by
  refine gives_iff.mpr fun tokens tidy value rest found => ⟨?_, trivial⟩
  unfold numberLiteral at found
  split at found
  next =>
    cases found
    exact (tidy_cons.mp tidy).2
  next => cases found

@[spec] theorem signedNumber_gives : Gives signedNumber Expr.Tidy := by
  mvcgen [signedNumber]
  all_goals simp_all +zetaDelta

@[spec] theorem numberPattern_gives : Gives numberPattern Expr.Tidy := by
  mvcgen [numberPattern]
  all_goals simp_all +zetaDelta

theorem tidy_attributes {first : Expr} (known : first.Tidy) (parts : List Text) :
    (parts.foldl Expr.attributeOf first).Tidy := by
  induction parts generalizing first with
  | nil => exact known
  | cons part rest ih => exact ih (Expr.tidy_attributeOf part known)

@[spec] theorem dottedExpr_gives (atLeast : Nat) : Gives (dottedExpr atLeast) Expr.Tidy := by
  have part : Gives (do symbol .dot; name) Text.Unbroken := by
    mvcgen
    all_goals simp_all
  have parts := many_gives part
  mvcgen [dottedExpr, parts]
  all_goals simp_all [tidy_attributes]

@[spec] theorem starPattern_gives : Gives starPattern Pattern.Tidy := by
  mvcgen [starPattern]
  all_goals simp_all

section

variable {pattern : Reader Pattern} (gives : Gives pattern Pattern.Tidy)

include gives

theorem sequenceItem_gives : Gives (sequenceItem pattern) Pattern.Tidy := by
  mvcgen [sequenceItem, gives]
  all_goals simp_all

theorem openSequence_gives : Gives (openSequence pattern) Pattern.Tidy := by
  have items := commaList_gives (sequenceItem_gives gives)
  mvcgen [openSequence, items]
  all_goals simp_all

end

/-! ### Mappings -/

def MappingItem.Tidy : MappingItem → Prop
  | entry key pattern => key.Tidy ∧ pattern.Tidy
  | rest _ => True

theorem tidy_mappingOf {items : List MappingItem} (all : ∀ item ∈ items, item.Tidy)
    {keys : List Expr} {patterns : List Pattern} {name : Option Text}
    (found : mappingOf items = some (keys, patterns, name)) :
    (∀ key ∈ keys, key.Tidy) ∧ ∀ pattern ∈ patterns, pattern.Tidy := by
  induction items generalizing keys patterns name with
  | nil =>
    cases found
    simp
  | cons item others ih =>
    obtain ⟨first, later⟩ := List.forall_mem_cons.mp all
    cases item with
    | rest id =>
      cases others with
      | nil =>
        cases found
        simp
      | cons next more => cases found
    | entry key pattern =>
      rw [mappingOf] at found
      obtain ⟨⟨moreKeys, more, last⟩, read, found⟩ := Option.bind_eq_some_iff.mp found
      cases found
      obtain ⟨keysKnown, patternsKnown⟩ := ih later read
      exact ⟨List.forall_mem_cons.mpr ⟨first.1, keysKnown⟩,
        List.forall_mem_cons.mpr ⟨first.2, patternsKnown⟩⟩

/-! ### Instances -/

def InstanceItem.Tidy : InstanceItem → Prop
  | positional pattern => pattern.Tidy
  | keyword _ pattern => pattern.Tidy

theorem tidy_instanceOf {items : List InstanceItem} (all : ∀ item ∈ items, item.Tidy)
    {patterns : List Pattern} {keywords : List (Text × Pattern)}
    (found : instanceOf items = some (patterns, keywords)) :
    (∀ pattern ∈ patterns, pattern.Tidy) ∧ ∀ pair ∈ keywords, pair.2.Tidy := by
  induction items generalizing patterns keywords with
  | nil =>
    cases found
    simp
  | cons item others ih =>
    obtain ⟨first, later⟩ := List.forall_mem_cons.mp all
    cases item with
    | positional pattern =>
      obtain ⟨⟨more, named⟩, read, found⟩ := Option.bind_eq_some_iff.mp found
      cases found
      obtain ⟨known, knownNamed⟩ := ih later read
      exact ⟨List.forall_mem_cons.mpr ⟨first, known⟩, knownNamed⟩
    | keyword name pattern =>
      obtain ⟨⟨more, named⟩, read, found⟩ := Option.bind_eq_some_iff.mp found
      obtain ⟨_, _, found⟩ := Option.bind_eq_some_iff.mp found
      cases found
      exact ⟨by simp, List.forall_mem_cons.mpr ⟨first, (ih later read).2⟩⟩

theorem instanceItem_gives {pattern : Reader Pattern} (gives : Gives pattern Pattern.Tidy) :
    Gives (instanceItem pattern) InstanceItem.Tidy := by
  mvcgen [instanceItem, gives]
  all_goals simp_all

theorem instancePattern_gives {type : Expr} (known : type.Tidy) {pattern : Reader Pattern}
    (gives : Gives pattern Pattern.Tidy) : Gives (instancePattern type pattern) Pattern.Tidy := by
  have items := commaList_gives (instanceItem_gives gives)
  mvcgen [instancePattern, items]
  all_goals simp_all
  next all found _ _ _ =>
    obtain ⟨positional, named⟩ := tidy_instanceOf all.2 found
    refine Pattern.tidy_instance _ known positional fun item inside => ?_
    obtain ⟨pair, member, rfl⟩ := List.mem_map.mp inside
    exact named pair member

/-- A pattern that begins with a name binds the name or holds what the name stands for. -/
theorem namePattern_gives {pattern : Reader Pattern} (gives : Gives pattern Pattern.Tidy) :
    Gives (namePattern pattern) Pattern.Tidy := by
  have parts {type : Expr} (known : type.Tidy) := instancePattern_gives known gives
  mvcgen [namePattern, parts]
  all_goals simp_all

/-! ### All patterns -/

variable {nested : Nested} (tidy : nested.Tidy)

include tidy

theorem constantPattern_gives : Gives (constantPattern nested) Expr.Tidy := by
  have atom := atom_gives tidy
  mvcgen [constantPattern, atom]
  all_goals simp_all

theorem mappingKey_gives : Gives (mappingKey nested) Expr.Tidy :=
  orElse_gives (constantPattern_gives tidy) (dottedExpr_gives 1)

variable {pattern : Reader Pattern} (gives : Gives pattern Pattern.Tidy)

include gives

theorem mappingItem_gives : Gives (mappingItem nested pattern) MappingItem.Tidy := by
  have key := mappingKey_gives tidy
  mvcgen [mappingItem, key, gives]
  all_goals simp_all [MappingItem.Tidy]

theorem mappingPattern_gives : Gives (mappingPattern nested pattern) Pattern.Tidy := by
  have items := commaList_gives (mappingItem_gives tidy gives)
  mvcgen [mappingPattern, items]
  all_goals simp_all
  next all found _ _ _ =>
    obtain ⟨keys, patterns⟩ := tidy_mappingOf all.2 found
    exact Pattern.tidy_mapping _ keys patterns

theorem closedPattern_gives : Gives (closedPattern nested pattern) Pattern.Tidy := by
  have named := namePattern_gives gives
  have constant := constantPattern_gives tidy
  have items := commaList_gives (sequenceItem_gives gives)
  have mapping := mappingPattern_gives tidy gives
  have several := openSequence_gives gives
  have bracketed : Gives (do
      if ← nextIs (.symbol .closeBracket) then return .sequence []
      else return .sequence (← commaList (sequenceItem pattern)).1) Pattern.Tidy := by
    mvcgen [items]
    all_goals simp_all
  have parenthesized : Gives (do
      if ← nextIs (.symbol .closeParen) then return .sequence [] else openSequence pattern)
      Pattern.Tidy := by
    mvcgen [several]
    all_goals simp_all
  have brackets := enclosed_gives .openBracket .closeBracket bracketed
  have parentheses := enclosed_gives .openParen .closeParen parenthesized
  mvcgen [closedPattern, named, constant, mapping, brackets, parentheses]
  all_goals simp_all

theorem patternOf_gives : Gives (patternOf nested pattern) Pattern.Tidy := by
  have options := separated_gives (.symbol .bar) (closedPattern_gives tidy gives)
  mvcgen [patternOf, options]
  all_goals simp_all +zetaDelta
  -- a single option stands for itself
  all_goals split <;> simp_all

omit gives in
theorem patternUpTo_gives (depth : Nat) : Gives (patternUpTo nested depth) Pattern.Tidy := by
  induction depth with
  | zero => exact failure_gives _
  | succ depth ih => exact patternOf_gives tidy ih

end Grammar

end Stencil.Script
