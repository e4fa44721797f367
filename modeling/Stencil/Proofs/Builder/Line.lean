import Stencil.Proofs.Markup.Line
import Stencil.Proofs.Outcome
import Stencil.Proofs.Script.Literal

/-!
What the builder does with one line: it takes the tokens of the line and no others, and what it
adds depends on them and on whether deeper lines follow.
-/

set_option autoImplicit false

namespace Stencil

open Markup

/-! ### Tags -/

namespace Markup

def Head.tag (head : Head) : Builder.Tag where
  element := head.element.map (·.value.val)
  id := head.id.map (·.value.val)
  classes := head.classes.map (·.value.val)
  attributes := head.attributes.map fun one => (one.name.val, one.value.val)

/-- The value of a quoted token, or what stands in its quotes. -/
def quotedText (content : Text) : Text :=
  match Script.literal content with
  | .ok value => value.display
  | .error _ => Fragment.inside content

/-- The inside of a literal that a name or a value becomes. -/
def pieceText (token : Token) : Text :=
  match token.kind with
  | .bracketExpression => Fragment.ofExpression (Fragment.inside token.content) true
  | .quotedString => Fragment.literalBody (quotedText token.content)
  | _ => Fragment.ofText token.content true

theorem ofToken_name {token : Token} (kind : token.kind ∈ Builder.tagValueKinds) :
    Fragment.ofToken token true = .ok (pieceText token) := by
  simp only [Builder.tagValueKinds, List.mem_cons, List.not_mem_nil, or_false] at kind
  rcases kind with kind | kind <;> simp [Fragment.ofToken, pieceText, kind]

theorem ofToken_value (one : Attribute) :
    Fragment.ofToken one.value.val true = .ok (pieceText one.value.val) := by
  have kind := one.value.property
  simp only [Builder.attributeValueKinds, List.mem_cons, List.not_mem_nil, or_false] at kind
  rcases kind with kind | kind | kind
  · simp [Fragment.ofToken, pieceText, kind]
  · rcases Script.literal_of_quotes (one.quoted kind) with malformed | ⟨points, found⟩
    · simp [Fragment.ofToken, pieceText, kind, Fragment.quotedValue, quotedText, malformed,
        Except.map]
    · simp [Fragment.ofToken, pieceText, kind, Fragment.quotedValue, quotedText, found,
        Except.map]
  · simp [Fragment.ofToken, pieceText, kind]

def Attribute.text (one : Attribute) : Text :=
  Builder.attributeText (pieceText one.name.val) (pieceText one.value.val)

def fixedText {sign : TokenKind} (name : Text) : Option (Signed sign) → Text
  | none => []
  | some signed => Builder.attributeText name (pieceText signed.value.val)

def Head.text (head : Head) : Builder.TagText where
  name := match head.element with
    | none => "div".toList
    | some signed => pieceText signed.value.val
  attributes := fixedText "id".toList head.id ++ fixedText "class".toList head.classes ++
    (head.attributes.map Attribute.text).flatten

end Markup

namespace Builder

theorem fixedAttribute_signed {sign : TokenKind} (name : Text) (signed : Option (Signed sign)) :
    fixedAttribute name (signed.map (·.value.val)) = .ok (fixedText name signed) := by
  cases signed with
  | none => rfl
  | some signed =>
    simp [fixedAttribute, ofToken_name signed.value.property, Except.map, fixedText]

theorem mapM_freeAttribute (all : List Attribute) :
    (all.map fun one => (one.name.val, one.value.val)).mapM freeAttribute =
      .ok (all.map Attribute.text) := by
  induction all with
  | nil => rfl
  | cons one rest ih =>
    have first : freeAttribute (one.name.val, one.value.val) = .ok one.text := by
      simp only [freeAttribute, ofToken_name one.name.property, ofToken_value one,
        Outcome.ok_bind]
      rfl
    rw [List.map_cons, List.mapM_cons, first, ih]
    rfl

theorem tagText_head (head : Head) : tagText head.tag = .ok head.text := by
  have id : fixedAttribute "id".toList head.tag.id = .ok (fixedText "id".toList head.id) :=
    fixedAttribute_signed _ _
  have classes : fixedAttribute "class".toList head.tag.classes =
      .ok (fixedText "class".toList head.classes) := fixedAttribute_signed _ _
  have others : head.tag.attributes.mapM freeAttribute =
      .ok (head.attributes.map Attribute.text) := mapM_freeAttribute _
  rw [tagText, id, classes, others]
  cases element : head.element with
  | none => simp [Head.tag, Head.text, element, pure, Except.pure]
  | some signed =>
    simp [Head.tag, Head.text, element, ofToken_name signed.value.property, pure, Except.pure]

/-! ### Taking the tokens of a line -/

theorem take?_other {kinds others : List TokenKind} {tokens : List Token}
    (leads : Leads others tokens) (apart : ∀ kind ∈ others, kinds.contains kind = false) :
    take? kinds tokens = none := by
  cases tokens with
  | nil => rfl
  | cons token rest =>
    have kind := apart token.kind (leads_cons.mp leads)
    simp only [take?, kind, Bool.false_eq_true, if_false]

theorem take?_mem {kinds : List TokenKind} (token : TokenOf kinds) (rest : List Token) :
    take? kinds (token.val :: rest) = some (token.val, rest) := by
  have inside : kinds.contains token.val.kind = true := List.contains_iff_mem.mpr token.property
  simp only [take?, inside, if_true]

theorem expect_mem {kinds : List TokenKind} (token : TokenOf kinds) (rest : List Token) :
    expect kinds (token.val :: rest) = .ok (token.val, rest) := by
  have inside : kinds.contains token.val.kind = true := List.contains_iff_mem.mpr token.property
  simp only [expect, inside, if_true]

theorem signedValue_tokens {sign : TokenKind} (signed : Option (Signed sign))
    {others : List TokenKind} {rest : List Token} (leads : Leads others rest)
    (apart : ∀ kind ∈ others, [sign].contains kind = false) :
    signedValue sign (signed.toList.flatMap Signed.tokens ++ rest) =
      .ok (signed.map (·.value.val), rest) := by
  cases signed with
  | none =>
    simp only [Option.toList_none, List.flatMap_nil, List.nil_append, signedValue,
      take?_other leads apart]
    rfl
  | some signed =>
    simp only [Option.toList_some, List.flatMap_cons, List.flatMap_nil, List.append_nil,
      Signed.tokens, List.cons_append, List.nil_append, signedValue, take?_mem, expect_mem,
      Outcome.ok_bind]
    rfl

theorem attributes_tokens (all : List Attribute) {others : List TokenKind} {rest : List Token}
    (leads : Leads others rest) (apart : ∀ kind ∈ others, tagValueKinds.contains kind = false) :
    attributes (all.flatMap Attribute.tokens ++ rest) =
      .ok (all.map fun one => (one.name.val, one.value.val), rest) := by
  induction all with
  | nil =>
    cases rest with
    | nil => rfl
    | cons token more =>
      have kind := apart token.kind (leads_cons.mp leads)
      rw [List.flatMap_nil, List.nil_append, attributes.eq_def]
      simp only [kind, Bool.false_eq_true, if_false, List.map_nil]
  | cons one more ih =>
    have name := List.contains_iff_mem.mpr one.name.property
    have value := List.contains_iff_mem.mpr one.value.property
    simp only [List.flatMap_cons, Attribute.tokens, List.cons_append, List.nil_append, attributes,
      name, one.connector.kind_eq, value, if_true, ih, Outcome.ok_bind]
    rfl

/-- What follows a line: nothing, or the indentation of the next one. -/
abbrev LineEnds (tokens : List Token) : Prop := Leads [.whiteSpace] tokens

theorem tag?_none (matter : Matter) {rest : List Token} (ends : LineEnds rest) :
    tag? (matter.tokens ++ rest) = .ok (none, matter.tokens ++ rest) := by
  have behind := leads_append matter.leads_tokens ends
  have nothing (sign : TokenKind)
      (apart : ∀ kind ∈ matterKinds ++ [.whiteSpace], [sign].contains kind = false) :
      signedValue sign (matter.tokens ++ rest) = .ok (none, matter.tokens ++ rest) :=
    signedValue_tokens none behind apart
  simp only [tag?, nothing .elementIdentifier (by decide), nothing .elementIdIdentifier (by decide),
    nothing .elementClassIdentifier (by decide), Outcome.ok_bind]
  rfl

theorem tag?_head (head : Head) (matter : Matter) {rest : List Token} (ends : LineEnds rest) :
    tag? (head.tokens ++ (matter.tokens ++ rest)) =
      .ok (some head.tag, matter.tokens ++ rest) := by
  have behind := leads_append matter.leads_tokens ends
  have pairs := leads_append (leads_attributes head.attributes) behind
  have classes := leads_append (leads_signed head.classes) pairs
  have id := leads_append (leads_signed head.id) classes
  have present : (head.tag.element.isNone && head.tag.id.isNone && head.tag.classes.isNone) =
      false := by
    have marked := head.marked
    cases one : head.element <;> cases two : head.id <;> cases three : head.classes <;>
      simp_all [Head.tag]
  simp only [Head.tag] at present
  simp only [Head.tokens, List.append_assoc, tag?, signedValue_tokens head.element id (by decide),
    signedValue_tokens head.id classes (by decide),
    signedValue_tokens head.classes pairs (by decide), Outcome.ok_bind, present,
    Bool.false_eq_true, if_false, attributes_tokens head.attributes behind (by decide)]
  rfl

end Builder

end Stencil
