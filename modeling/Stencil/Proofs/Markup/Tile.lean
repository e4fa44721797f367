import Stencil.Proofs.Markup.Lexing
import Stencil.Proofs.Text.Inside
import Stencil.Proofs.Text.Unbroken

/-!
The pieces of a line fill it. Each has its text where its column says, they follow each other,
and what they leave out is blank, but for the backslash that keeps a character from being a sign.
-/

set_option autoImplicit false

namespace Stencil.Markup

open Lexer

section Tiling

variable {Item : Type} (start : Item → Nat) (content : Item → Text)

/-- Items that fill a text from a place on. `free` tells which characters they may leave out. -/
inductive Tiles (free : Nat → Char → Prop) : Nat → Text → List Item → Prop where
  | nil (place : Nat) : Tiles free place [] []
  | skip {place : Nat} {c : Char} {text : Text} {items : List Item} (allowed : free place c)
      (later : Tiles free (place + 1) text items) : Tiles free place (c :: text) items
  | item {text : Text} {items : List Item} (one : Item)
      (later : Tiles free (start one + (content one).length) text items) :
      Tiles free (start one) (content one ++ text) (one :: items)

namespace Tiles

variable {start content} {free : Nat → Char → Prop} {place : Nat} {text : Text} {items : List Item}

theorem append {next : Text} {others : List Item} (first : Tiles start content free place text items)
    (second : Tiles start content free (place + text.length) next others) :
    Tiles start content free place (text ++ next) (items ++ others) := by
  induction first with
  | nil place => exact second
  | skip allowed _ ih =>
    refine .skip allowed (ih ?_)
    rwa [Nat.add_right_comm]
  | item one _ ih =>
    rw [List.append_assoc]
    refine .item one (ih ?_)
    rwa [Nat.add_assoc, ← List.length_append]

theorem gap (allowed : ∀ index c, text[index]? = some c → free (place + index) c) :
    Tiles start content free place text [] := by
  induction text generalizing place with
  | nil => exact .nil place
  | cons c text ih =>
    refine .skip (allowed 0 c rfl) (ih fun index d found => ?_)
    have here := allowed (index + 1) d found
    rwa [Nat.add_comm index 1, ← Nat.add_assoc] at here

variable (start content) in
theorem single (one : Item) : Tiles start content free (start one) (content one) [one] := by
  have alone : Tiles start content free (start one) (content one ++ []) [one] := .item one (.nil _)
  rwa [List.append_nil] at alone

/-- Items and their places may change together, and more may become free. -/
theorem shift {Other : Type} {begin : Other → Nat} {said : Other → Text} {change : Item → Other}
    {count : Nat} {open_ : Nat → Char → Prop} (tiles : Tiles start content free place text items)
    (moved : ∀ item, begin (change item) = count + start item)
    (same : ∀ item, said (change item) = content item)
    (wider : ∀ place c, free place c → open_ (count + place) c) :
    Tiles begin said open_ (count + place) text (items.map change) := by
  induction tiles with
  | nil place => exact .nil _
  | skip allowed _ ih => exact .skip (wider _ _ allowed) ih
  | @item text items one _ ih =>
    rw [List.map_cons, ← moved, ← same]
    refine .item _ ?_
    rwa [moved, same, Nat.add_assoc]

/-- More may become free, where the character in question is one of the text. -/
theorem widen {open_ : Nat → Char → Prop} (tiles : Tiles start content free place text items)
    (wider : ∀ index c, text[index]? = some c → free (place + index) c →
      open_ (place + index) c) : Tiles start content open_ place text items := by
  induction tiles with
  | nil place => exact .nil place
  | @skip place c text items allowed _ ih =>
    refine .skip (wider 0 c rfl allowed) (ih fun index d found free => ?_)
    rw [Nat.add_assoc, Nat.add_comm 1] at free ⊢
    exact wider (index + 1) d found free
  | @item text items one _ ih =>
    refine .item one (ih fun index d found free => ?_)
    rw [Nat.add_assoc] at free ⊢
    refine wider _ d ?_ free
    rw [List.getElem?_append_right (Nat.le_add_right ..), Nat.add_sub_cancel_left, found]

/-- The text has each item's content where the item starts. -/
theorem content_at (tiles : Tiles start content free place text items) {item : Item}
    (member : item ∈ items) :
    ∃ before after, text = before ++ content item ++ after ∧ start item = place + before.length := by
  induction tiles with
  | nil place => cases member
  | @skip place c text items allowed later ih =>
    obtain ⟨before, after, rfl, found⟩ := ih member
    refine ⟨c :: before, after, rfl, ?_⟩
    rw [found, List.length_cons, Nat.add_right_comm, Nat.add_assoc]
  | @item text items one later ih =>
    rcases List.mem_cons.mp member with rfl | behind
    · exact ⟨[], text, rfl, rfl⟩
    · obtain ⟨before, after, rfl, found⟩ := ih behind
      refine ⟨content one ++ before, after, by simp, ?_⟩
      rw [found, List.length_append, Nat.add_assoc]

theorem in_order (tiles : Tiles start content free place text items) :
    items.Pairwise fun one next => start one + (content one).length ≤ start next := by
  induction tiles with
  | nil place => exact .nil
  | skip allowed _ ih => exact ih
  | item one later ih =>
    refine .cons (fun next member => ?_) ih
    obtain ⟨before, _, _, found⟩ := later.content_at member
    omega

theorem covered (tiles : Tiles start content free place text items) {index : Nat} {c : Char}
    (found : text[index]? = some c) :
    (∃ item ∈ items, start item ≤ place + index ∧
      place + index < start item + (content item).length) ∨ free (place + index) c := by
  induction tiles generalizing index with
  | nil place => simp at found
  | @skip place d text items allowed later ih =>
    cases index with
    | zero =>
      cases found
      exact .inr allowed
    | succ index =>
      rw [Nat.add_comm index 1, ← Nat.add_assoc]
      exact ih found
  | @item text items one later ih =>
    by_cases inside : index < (content one).length
    next => exact .inl ⟨one, by simp, by omega, by omega⟩
    next =>
      rw [List.getElem?_append_right (by omega)] at found
      have moved : start one + (content one).length + (index - (content one).length) =
          start one + index := by omega
      have covered := ih found
      rw [moved] at covered
      rcases covered with ⟨item, member, bounds⟩ | allowed
      · exact .inl ⟨item, List.mem_cons_of_mem _ member, bounds⟩
      · exact .inr allowed

end Tiles

end Tiling

/-! ### Boundaries -/

/-- What a line may keep of its boundary. No piece but a rest of the line reaches into it. -/
def Closes (ending : Text) : Prop := ∀ c ∈ ending, Text.isBoundary c = true

def boundaries : List Nat := [10, 11, 12, 13, 28, 29, 30, 0x85, 0x2028, 0x2029]

theorem mem_boundaries {c : Char} (boundary : Text.isBoundary c = true) :
    ∃ code ∈ boundaries, c = Char.ofNat code := by
  refine ⟨c.toNat, ?_, (Char.ofNat_toNat c).symm⟩
  simp only [Text.isBoundary, Bool.or_eq_true, Bool.and_eq_true, decide_eq_true_eq,
    beq_iff_eq] at boundary
  simp only [boundaries, List.mem_cons, List.not_mem_nil, or_false]
  omega

theorem blank_boundary : ∀ code ∈ boundaries, Text.isBlank (Char.ofNat code) = true ∧
    Text.isIndent (Char.ofNat code) = false ∧ isNameChar (Char.ofNat code) = false := by
  decide +kernel

/-- A boundary is blank, but neither an indentation nor a part of a name. -/
theorem Closes.blank {ending : Text} (closes : Closes ending) {c : Char} (member : c ∈ ending) :
    Text.isBlank c = true ∧ Text.isIndent c = false ∧ isNameChar c = false := by
  obtain ⟨code, known, rfl⟩ := mem_boundaries (closes c member)
  exact blank_boundary code known

theorem Closes.not_mem {ending : Text} (closes : Closes ending) {c : Char}
    (inside : Text.isBoundary c = false) : c ∉ ending := by
  intro member
  rw [closes c member] at inside
  cases inside

end Stencil.Markup
