import Stencil.Proofs.Script.Reading
import Stencil.Script.Check

/-!
What kinds of values readers give. An expression never has a star in front: stars are read in lists of
items only.
-/

set_option autoImplicit false

namespace Stencil.Script

namespace Reader

variable {α β : Type} {good : α → Prop} {kind : β → Prop}

/-- Whether all that a reader gives is of a kind. -/
def Yields (good : α → Prop) (reader : Reader α) : Prop :=
  ∀ ⦃tokens value rest⦄, reader tokens = some (value, rest) → good value

theorem yields_any (reader : Reader α) : Yields (fun _ => True) reader := fun _ _ _ _ => trivial

theorem yields_bind {reader : Reader β} {next : β → Reader α} (first : Yields kind reader)
    (later : ∀ value, kind value → Yields good (next value)) : Yields good (reader >>= next) := by
  intro tokens value rest read
  obtain ⟨found, one, read⟩ := Option.bind_eq_some_iff.mp read
  exact later found.1 (first one) read

/-- What comes first may be of any kind. -/
theorem yields_then {reader : Reader β} {next : β → Reader α} (later : ∀ value, Yields good (next value)) :
    Yields good (reader >>= next) :=
  yields_bind (yields_any reader) fun value _ => later value

theorem yields_pure {value : α} (fits : good value) : Yields good (pure value : Reader α) := by
  intro tokens found rest read
  cases read
  exact fits

theorem yields_failure : Yields good (failure : Reader α) := nofun

theorem yields_ite {condition : Prop} [Decidable condition] {first second : Reader α}
    (one : Yields good first) (other : Yields good second) :
    Yields good (if condition then first else second) := by
  split
  next => exact one
  next => exact other

theorem yields_grow {step : α → Reader (Option α)} {start : α} (fits : good start)
    (steps : ∀ value, Yields (fun found => ∀ next, found = some next → good next) (step value)) :
    Yields good (grow step start) := by
  intro tokens value rest read
  have grown (count : Nat) : ∀ start, good start → Yields good (growUpTo step count start) := by
    induction count with
    | zero => exact fun start fits => yields_pure fits
    | succ count ih =>
      refine fun start fits => yields_bind (steps start) fun found next => ?_
      cases found with
      | none => exact yields_pure fits
      | some later => exact ih later (next later rfl)
  exact grown _ start fits read

theorem yields_possibly {reader : Reader α} (yields : Yields good reader) :
    Yields (fun found => ∀ value, found = some value → good value) (possibly reader) := by
  intro tokens found rest read value same
  subst same
  simp only [possibly] at read
  split at read
  next one =>
    cases read
    exact yields one
  next => cases read

/-- A single item of a list of those that are read with something between them. -/
theorem yields_separated {separator : Token} {item : Reader α} (yields : Yields good item) :
    Yields (fun found => ∀ value, found = [value] → good value) (separated separator item) := by
  intro tokens found rest read value same
  subst same
  exact yields (item_of_separated read)

theorem yields_enclosed {opening closing : Symbol} {content : Reader α} (yields : Yields good content) :
    Yields good (enclosed opening closing content) :=
  yields_then fun _ => yields_bind yields fun _ fits => yields_then fun _ => yields_pure fits

end Reader

open Reader

namespace Grammar

def Unstarred (reader : Reader Expr) : Prop := Yields (fun expr => Check.isStarred expr = false) reader

theorem unstarred_pure {expr : Expr} (plain : Check.isStarred expr = false) :
    Unstarred (pure expr) := yields_pure plain

variable {nested : Nested}

/-! ### Atoms -/

theorem unstarred_comprehension (kind : ComprehensionKind) (element : Expr) (value : Option Expr) :
    Unstarred (comprehensionOf nested kind element value) := by
  unfold comprehensionOf
  split
  next => exact yields_failure
  next => exact yields_then fun _ => unstarred_pure rfl

theorem unstarred_yield : Unstarred (yieldExpression nested) :=
  yields_then fun _ => yields_then fun _ => yields_ite (yields_then fun _ => unstarred_pure rfl)
    (yields_then fun _ => unstarred_pure rfl)

theorem unstarred_parenthesized : Unstarred (parenthesized nested) := by
  refine yields_then fun _ => yields_ite (unstarred_pure rfl) <| yields_then fun _ =>
    yields_ite unstarred_yield <| yields_then fun first => yields_then fun _ =>
    yields_ite (unstarred_comprehension ..) <| yields_then fun (others, trailing) =>
    yields_ite ?_ (unstarred_pure rfl)
  split
  next => exact yields_failure
  next plain =>
    refine unstarred_pure ?_
    unfold Check.isStarred
    split
    next held => exact absurd rfl (plain held)
    next => rfl

theorem unstarred_bracketed : Unstarred (bracketed nested) :=
  yields_then fun _ => yields_ite (unstarred_pure rfl) <| yields_then fun _ => yields_then fun _ =>
    yields_ite (unstarred_comprehension ..) <| yields_then fun (_, _) => unstarred_pure rfl

theorem unstarred_braced : Unstarred (braced nested) := by
  refine yields_then fun _ => yields_ite (unstarred_pure rfl) <| yields_then fun _ =>
    yields_ite (yields_then fun _ => yields_then fun _ => unstarred_pure rfl) <|
    yields_then fun _ => yields_then fun first => yields_then fun _ =>
    yields_ite (unstarred_comprehension ..) <| yields_then fun _ =>
    yields_ite (yields_then fun _ => ?_) (yields_then fun (_, _) => unstarred_pure rfl)
  split
  next => exact yields_failure
  next =>
    exact yields_then fun _ => yields_then fun _ => yields_then fun _ =>
      yields_ite (unstarred_comprehension ..) (yields_then fun _ => unstarred_pure rfl)

theorem unstarred_quotations : Unstarred (quotations nested) := by
  refine yields_then fun found => ?_
  split
  next value meant =>
    refine unstarred_pure ?_
    have mapped {γ : Type} {pieces : Option γ} {make : γ → Expr}
        (plain : ∀ found, Check.isStarred (make found) = false)
        (meant : pieces.bind (fun found => some (make found)) = some value) :
        Check.isStarred value = false := by
      obtain ⟨found, -, rfl⟩ := Option.map_eq_some_iff.mp (Option.map_eq_bind.trans meant)
      exact plain found
    simp only [quotationsValue] at meant
    split at meant
    next =>
      obtain ⟨-, -, meant⟩ := Option.bind_eq_some_iff.mp meant
      exact mapped (fun _ => rfl) meant
    next =>
      split at meant
      next => exact mapped (fun _ => rfl) meant
      next => exact mapped (fun _ => rfl) meant
  next => exact yields_failure

theorem unstarred_atom : Unstarred (atom nested) := by
  refine yields_then fun next => ?_
  split
  next => exact yields_then fun _ => unstarred_pure rfl
  next => exact yields_then fun _ => unstarred_pure rfl
  next => exact unstarred_quotations
  next => exact yields_then fun _ => unstarred_pure rfl
  next => exact yields_then fun _ => unstarred_pure rfl
  next => exact yields_then fun _ => unstarred_pure rfl
  next => exact yields_then fun _ => unstarred_pure rfl
  next => exact yields_enclosed unstarred_parenthesized
  next => exact yields_enclosed unstarred_bracketed
  next => exact yields_enclosed unstarred_braced
  next => exact yields_failure

/-! ### Operators -/

theorem unstarred_primary : Unstarred (primary nested) := by
  refine yields_bind unstarred_atom fun first plain => yields_grow plain fun object => ?_
  have made {made : Expr} (plain : Check.isStarred made = false) :
      Yields (fun found => ∀ next, found = some next → Check.isStarred next = false)
        (pure (some made) : Reader (Option Expr)) :=
    yields_pure fun next same => Option.some.inj same ▸ plain
  exact yields_then fun _ => yields_ite (yields_then fun _ => made rfl) <| yields_then fun _ =>
    yields_ite (yields_then fun _ => made rfl) <| yields_then fun _ =>
    yields_ite (yields_then fun _ => made rfl) (yields_pure nofun)

theorem unstarred_power : Unstarred (power nested) := by
  have awaited : Unstarred (awaited nested) := yields_then fun _ =>
    yields_ite (yields_then fun _ => unstarred_pure rfl) unstarred_primary
  exact yields_bind awaited fun base plain => yields_then fun _ =>
    yields_ite (yields_then fun _ => unstarred_pure rfl) (unstarred_pure plain)

theorem unstarred_factor : Unstarred (factor nested) :=
  yields_then fun _ => yields_ite (yields_then fun _ => unstarred_pure rfl) <| yields_then fun _ =>
    yields_ite (yields_then fun _ => unstarred_pure rfl) <| yields_then fun _ =>
    yields_ite (yields_then fun _ => unstarred_pure rfl) unstarred_power

theorem unstarred_leftGrouped {op? : Token → Option BinaryOp} {operand : Reader Expr}
    (yields : Unstarred operand) : Unstarred (leftGrouped op? operand) := by
  refine yields_bind yields fun first plain => yields_grow plain fun left => yields_possibly ?_
  refine yields_then fun next => ?_
  split
  next => exact yields_then fun _ => yields_then fun _ => unstarred_pure rfl
  next => exact yields_failure

theorem unstarred_bitOr : Unstarred (bitOr nested) :=
  unstarred_leftGrouped <| unstarred_leftGrouped <| unstarred_leftGrouped <| unstarred_leftGrouped <|
    unstarred_leftGrouped <| unstarred_leftGrouped unstarred_factor

theorem unstarred_inversion : Unstarred (inversion nested) := by
  have compared : Unstarred (comparison nested) := by
    refine yields_bind unstarred_bitOr fun first plain => yields_then fun rest => yields_pure ?_
    split
    next => exact plain
    next => rfl
  exact yields_then fun _ => yields_ite (yields_then fun _ => unstarred_pure rfl) compared

/-- Operands with a connective between them. A single one is what it is by itself. -/
theorem unstarred_connected {separator : Token} {op : Connective} {operand : Reader Expr}
    (yields : Unstarred operand) :
    Unstarred (do
      let operands ← separated separator operand
      match operands with
      | [operand] => return operand
      | _ => return .logical op operands) := by
  refine yields_bind (yields_separated yields) fun operands single => ?_
  split
  next operand => exact unstarred_pure (single operand rfl)
  next => exact unstarred_pure rfl

theorem unstarred_disjunction : Unstarred (disjunction nested) :=
  unstarred_connected (unstarred_connected unstarred_inversion)

theorem unstarred_expression : Unstarred (expression nested) := by
  have lambda : Unstarred (lambda nested) :=
    yields_then fun _ => yields_then fun _ => yields_then fun _ => yields_then fun _ => unstarred_pure rfl
  exact yields_then fun _ => yields_ite lambda <| yields_bind unstarred_disjunction fun body plain =>
    yields_then fun _ => yields_ite
      (yields_then fun _ => yields_then fun _ => yields_then fun _ => unstarred_pure rfl)
      (unstarred_pure plain)

end Grammar

theorem unstarred_upTo (depth : Nat) : Grammar.Unstarred (Nested.upTo depth).expression := by
  cases depth with
  | zero => exact yields_failure
  | succ depth => exact Grammar.unstarred_expression

end Stencil.Script
