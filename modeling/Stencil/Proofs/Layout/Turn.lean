import Stencil.Proofs.Layout.Source
import Stencil.Proofs.Turn.Reading

/-!
Turns that are read from tokens without line breaks have no line breaks in what they write.
-/

set_option autoImplicit false

namespace Stencil

open Text (Unbroken)

def Token.OnLine (token : Token) : Prop := Unbroken token.content

theorem Fragment.unbroken_ofExpression {code : Text} (unbroken : Unbroken code) (inString : Bool) :
    Unbroken (ofExpression code inString) := by
  cases inString with
  | true => simp [ofExpression, interrupting, stringCall, unbroken]
  | false => simp [ofExpression, stringCall, unbroken]

theorem Fragment.unbroken_ofToken {token : Token} {inString : Bool} {text : Text}
    (onLine : token.OnLine) (written : ofToken token inString = .ok text) : Unbroken text := by
  have plain (whole : Text) : Unbroken (ofText whole inString) := by
    cases inString with
    | true => exact Text.unbroken_literalBody whole
    | false => exact Text.unbroken_quoted whole
  unfold ofToken at written
  split at written
  next =>
    cases written
    exact unbroken_ofExpression onLine _
  next =>
    cases written
    refine unbroken_ofExpression (onLine.of_mem fun c member => ?_) _
    exact List.mem_of_mem_drop (List.dropLast_subset _ member)
  next =>
    split at written
    next =>
      obtain ⟨value, _, rfl⟩ := Outcome.map_eq_ok.mp written
      exact Text.unbroken_literalBody _
    next =>
      cases written
      exact onLine
  next =>
    cases written
    exact plain _
  next =>
    cases written
    exact plain _
  next => cases written

namespace Builder

structure TagText.OnLine (text : TagText) : Prop where
  name : Unbroken text.name
  attributes : Unbroken text.attributes

def Content.OnLine : Content → Prop
  | .absent => True
  | .output _ body => Unbroken body
  | .statement code => Unbroken code
  | .block header => Unbroken header ∧ header.getLast? = some ':'
  | .call code => Unbroken code

structure Turn.OnLine (turn : Turn) : Prop where
  tag : ∀ text ∈ turn.tag, text.OnLine
  content : turn.content.OnLine

/-! ### Tags -/

variable {tokens rest : List Token}

theorem onLine_take {kinds : List TokenKind} {token : Token}
    (onLine : ∀ token ∈ tokens, token.OnLine) (taken : take? kinds tokens = some (token, rest)) :
    token.OnLine ∧ ∀ token ∈ rest, token.OnLine := by
  cases tokens with
  | nil => cases taken
  | cons first others =>
    rw [take?] at taken
    split at taken
    next =>
      cases taken
      exact List.forall_mem_cons.mp onLine
    next => cases taken

theorem onLine_expect {kinds : List TokenKind} {token : Token}
    (onLine : ∀ token ∈ tokens, token.OnLine) (read : expect kinds tokens = .ok (token, rest)) :
    token.OnLine ∧ ∀ token ∈ rest, token.OnLine := by
  cases tokens with
  | nil => cases read
  | cons first others =>
    rw [expect] at read
    split at read
    next =>
      cases read
      exact List.forall_mem_cons.mp onLine
    next => cases read

theorem onLine_signedValue {sign : TokenKind} {value : Option Token}
    (onLine : ∀ token ∈ tokens, token.OnLine) (read : signedValue sign tokens = .ok (value, rest)) :
    (∀ token ∈ value, token.OnLine) ∧ ∀ token ∈ rest, token.OnLine := by
  unfold signedValue at read
  split at read
  next =>
    cases read
    exact ⟨by simp, onLine⟩
  next taken =>
    obtain ⟨⟨token, behind⟩, expected, read⟩ := Outcome.bind_eq_ok.mp read
    cases read
    obtain ⟨here, later⟩ := onLine_expect (onLine_take onLine taken).2 expected
    exact ⟨by simpa using here, later⟩

theorem onLine_attributes {pairs : List (Token × Token)} (onLine : ∀ token ∈ tokens, token.OnLine)
    (read : attributes tokens = .ok (pairs, rest)) :
    (∀ pair ∈ pairs, pair.1.OnLine ∧ pair.2.OnLine) ∧ ∀ token ∈ rest, token.OnLine := by
  fun_induction attributes tokens generalizing pairs rest with
  | case1 =>
    cases read
    exact ⟨by simp, onLine⟩
  | case4 name _ connector equals value others known ih =>
    obtain ⟨⟨more, last⟩, later, read⟩ := Outcome.bind_eq_ok.mp read
    cases read
    simp only [List.forall_mem_cons] at onLine
    obtain ⟨named, _, valued, behind⟩ := onLine
    obtain ⟨paired, behind⟩ := ih behind later
    exact ⟨List.forall_mem_cons.mpr ⟨⟨named, valued⟩, paired⟩, behind⟩
  | case7 name others other =>
    cases read
    exact ⟨by simp, onLine⟩
  | _ => cases read

/-- The tokens that a tag is made of. -/
structure Tag.OnLine (tag : Tag) : Prop where
  element : ∀ token ∈ tag.element, token.OnLine
  id : ∀ token ∈ tag.id, token.OnLine
  classes : ∀ token ∈ tag.classes, token.OnLine
  attributes : ∀ pair ∈ tag.attributes, pair.1.OnLine ∧ pair.2.OnLine

theorem onLine_tag {tag : Option Tag} (onLine : ∀ token ∈ tokens, token.OnLine)
    (read : tag? tokens = .ok (tag, rest)) :
    (∀ one ∈ tag, one.OnLine) ∧ ∀ token ∈ rest, token.OnLine := by
  obtain ⟨⟨element, one⟩, first, read⟩ := Outcome.bind_eq_ok.mp read
  obtain ⟨⟨id, two⟩, second, read⟩ := Outcome.bind_eq_ok.mp read
  obtain ⟨⟨classes, three⟩, third, read⟩ := Outcome.bind_eq_ok.mp read
  obtain ⟨named, behind⟩ := onLine_signedValue onLine first
  obtain ⟨marked, behind⟩ := onLine_signedValue behind second
  obtain ⟨sorted, behind⟩ := onLine_signedValue behind third
  simp only at read
  split at read
  next =>
    cases read
    exact ⟨by simp, behind⟩
  next =>
    obtain ⟨⟨pairs, four⟩, fourth, read⟩ := Outcome.bind_eq_ok.mp read
    cases read
    obtain ⟨paired, behind⟩ := onLine_attributes behind fourth
    refine ⟨?_, behind⟩
    rintro one ⟨⟩
    exact ⟨named, marked, sorted, paired⟩

theorem unbroken_attributeText {name value : Text} (named : Unbroken name)
    (valued : Unbroken value) : Unbroken (attributeText name value) := by
  simp [attributeText, named, valued]

theorem unbroken_fixedAttribute {name text : Text} {value : Option Token} (named : Unbroken name)
    (onLine : ∀ token ∈ value, token.OnLine) (written : fixedAttribute name value = .ok text) :
    Unbroken text := by
  cases value with
  | none =>
    cases written
    exact Text.unbroken_nil
  | some token =>
    obtain ⟨inner, found, rfl⟩ := Outcome.map_eq_ok.mp written
    exact unbroken_attributeText named (Fragment.unbroken_ofToken (onLine token rfl) found)

theorem unbroken_freeAttribute {pair : Token × Token} {text : Text}
    (onLine : pair.1.OnLine ∧ pair.2.OnLine) (written : freeAttribute pair = .ok text) :
    Unbroken text := by
  obtain ⟨name, first, written⟩ := Outcome.bind_eq_ok.mp written
  obtain ⟨value, second, written⟩ := Outcome.bind_eq_ok.mp written
  cases written
  exact unbroken_attributeText (Fragment.unbroken_ofToken onLine.1 first)
    (Fragment.unbroken_ofToken onLine.2 second)

theorem onLine_tagText {tag : Tag} {text : TagText} (onLine : tag.OnLine)
    (written : tagText tag = .ok text) : text.OnLine := by
  have rest {name : Text} (named : Unbroken name) (written : (do
      let id ← fixedAttribute "id".toList tag.id
      let classes ← fixedAttribute "class".toList tag.classes
      let others ← tag.attributes.mapM freeAttribute
      return (⟨name, id ++ classes ++ others.flatten⟩ : TagText)) = .ok text) : text.OnLine := by
    obtain ⟨id, first, written⟩ := Outcome.bind_eq_ok.mp written
    obtain ⟨classes, second, written⟩ := Outcome.bind_eq_ok.mp written
    obtain ⟨others, third, written⟩ := Outcome.bind_eq_ok.mp written
    cases written
    have marked := unbroken_fixedAttribute (by decide) onLine.id first
    have sorted := unbroken_fixedAttribute (by decide) onLine.classes second
    have free := Text.unbroken_flatten fun part member => by
      obtain ⟨pair, inside, found⟩ := Outcome.mem_mapM third part member
      exact unbroken_freeAttribute (onLine.attributes pair inside) found
    exact ⟨named, by simp [marked, sorted, free]⟩
  unfold tagText at written
  split at written
  next => exact rest (by decide) written
  next value present =>
    obtain ⟨name, found, written⟩ := Outcome.bind_eq_ok.mp written
    exact rest (Fragment.unbroken_ofToken (onLine.element value present) found) written

/-! ### Content -/

theorem onLine_headerOf {code : Text} (unbroken : Unbroken code) :
    (Content.block (headerOf code)).OnLine := by
  have trimmed : Unbroken (Text.trimRight code) := unbroken.of_mem fun _ => Text.mem_trimRight
  simp only [Content.OnLine, headerOf]
  split
  next colon => exact ⟨trimmed, colon⟩
  next => simp [trimmed]

theorem onLine_content {builder : Builder} {content : Content}
    (onLine : ∀ token ∈ tokens, token.OnLine)
    (read : builder.content tokens = .ok (content, rest)) :
    content.OnLine ∧ ∀ token ∈ rest, token.OnLine := by
  unfold Builder.content at read
  split at read
  next =>
    cases read
    exact ⟨trivial, onLine⟩
  next token others =>
    obtain ⟨here, later⟩ := List.forall_mem_cons.mp onLine
    split at read
    case h_1 =>
      obtain ⟨⟨code, behind⟩, expected, read⟩ := Outcome.bind_eq_ok.mp read
      obtain ⟨unbroken, behind⟩ := onLine_expect later expected
      simp only at read
      split at read
      next =>
        cases read
        exact ⟨unbroken, behind⟩
      next =>
        cases read
        exact ⟨Fragment.unbroken_ofExpression unbroken false, behind⟩
    case h_2 =>
      obtain ⟨⟨code, behind⟩, expected, read⟩ := Outcome.bind_eq_ok.mp read
      obtain ⟨unbroken, behind⟩ := onLine_expect later expected
      simp only at read
      split at read
      next =>
        cases read
        exact ⟨onLine_headerOf unbroken, behind⟩
      next =>
        cases read
        exact ⟨unbroken, behind⟩
    case h_3 =>
      obtain ⟨⟨note, behind⟩, expected, read⟩ := Outcome.bind_eq_ok.mp read
      cases read
      exact ⟨by simp [comment, Content.OnLine, Text.unbroken_literalBody],
        (onLine_expect later expected).2⟩
    case h_4 =>
      cases read
      exact ⟨by simp [comment, Content.OnLine, Text.unbroken_literalBody], later⟩
    case h_5 =>
      cases read
      exact ⟨Text.unbroken_literalBody _, later⟩
    case h_6 =>
      cases read
      exact ⟨trivial, onLine⟩

/-! ### Turns -/

theorem onLine_readTurn {builder : Builder} {turn : Turn} (onLine : ∀ token ∈ tokens, token.OnLine)
    (read : builder.readTurn tokens = .ok (turn, rest)) :
    turn.OnLine ∧ ∀ token ∈ rest, token.OnLine := by
  have start : ∀ token ∈ (indentation? tokens).2, token.OnLine := by
    unfold indentation?
    split
    next => exact onLine
    next taken => exact (onLine_take onLine taken).2
  obtain ⟨⟨tag, one⟩, first, read⟩ := Outcome.bind_eq_ok.mp read
  obtain ⟨text, written, read⟩ := Outcome.bind_eq_ok.mp read
  obtain ⟨⟨content, two⟩, second, read⟩ := Outcome.bind_eq_ok.mp read
  cases read
  obtain ⟨tagged, behind⟩ := onLine_tag start first
  obtain ⟨filled, behind⟩ := onLine_content behind second
  refine ⟨⟨?_, filled⟩, behind⟩
  cases tag with
  | none =>
    cases written
    simp
  | some tag =>
    rw [Option.mapM_some] at written
    change (tagText tag).map some = .ok text at written
    obtain ⟨found, known, rfl⟩ := Outcome.map_eq_ok.mp written
    rintro one ⟨⟩
    exact onLine_tagText (tagged tag rfl) known

theorem onLine_turns {builder : Builder} {all : List Turn}
    (onLine : ∀ token ∈ tokens, token.OnLine) (read : builder.turns tokens = .ok all) :
    ∀ turn ∈ all, turn.OnLine := by
  induction size : tokens.length using Nat.strongRecOn generalizing builder tokens all with
  | ind size ih =>
    cases tokens with
    | nil =>
      rw [turns] at read
      cases read
      simp
    | cons token others =>
      rw [turns] at read
      obtain ⟨⟨turn, rest⟩, one, read⟩ := Outcome.bind_eq_ok.mp read
      obtain ⟨next, _, read⟩ := Outcome.bind_eq_ok.mp read
      split at read
      next shorter =>
        obtain ⟨later, more, read⟩ := Outcome.bind_eq_ok.mp read
        cases read
        obtain ⟨here, behind⟩ := onLine_readTurn onLine one
        have less : rest.length < (token :: others).length := Nat.lt_succ_of_le shorter
        exact List.forall_mem_cons.mpr ⟨here, ih _ (size ▸ less) behind more rfl⟩
      next => cases read

theorem onLine_docTurns {turns : List Turn} (onLine : ∀ token ∈ tokens, token.OnLine)
    (read : docTurns tokens = .ok (turns, rest)) :
    (∀ turn ∈ turns, turn.OnLine) ∧ ∀ token ∈ rest, token.OnLine := by
  unfold docTurns at read
  split at read
  next =>
    cases read
    exact ⟨by simp, onLine⟩
  next identifier behind taken =>
    have later := (onLine_take onLine taken).2
    simp only at read
    split at read
    next =>
      cases read
      refine ⟨List.forall_mem_singleton.mpr ⟨by simp, Text.unbroken_literalBody _⟩, ?_⟩
      split
      next => exact later
      next typed => exact (onLine_take later typed).2
    next => cases read

end Builder

/-- Whatever is in a source, no turn that is read from it writes over the end of its line. -/
theorem Program.onLine_turns {tokens : List Token} {turns : List Builder.Turn}
    (onLine : ∀ token ∈ tokens, token.OnLine) (read : Program.turns tokens = .ok turns) :
    ∀ turn ∈ turns, turn.OnLine := by
  obtain ⟨⟨first, rest⟩, one, read⟩ := Outcome.bind_eq_ok.mp read
  obtain ⟨builder, _, read⟩ := Outcome.bind_eq_ok.mp read
  obtain ⟨later, more, read⟩ := Outcome.bind_eq_ok.mp read
  cases read
  obtain ⟨before, behind⟩ := Builder.onLine_docTurns onLine one
  exact List.forall_mem_append.mpr ⟨before, Builder.onLine_turns behind more⟩

end Stencil
