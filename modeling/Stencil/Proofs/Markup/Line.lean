import Stencil.Program.Builder
import Stencil.Proofs.Text.Inside

/-!
Lines as the lexer writes them and the builder reads them: an indentation, the head of a tag and
what stands behind it. The kinds of their tokens are part of their types.
-/

set_option autoImplicit false

namespace Stencil.Markup

open Builder (tagValueKinds attributeValueKinds)

abbrev TokenOf (kinds : List TokenKind) := { token : Token // token.kind ∈ kinds }

theorem TokenOf.kind_eq {kind : TokenKind} (token : TokenOf [kind]) : token.val.kind = kind :=
  List.mem_singleton.mp token.property

/-- A sign and the value behind it. -/
structure Signed (sign : TokenKind) where
  mark : TokenOf [sign]
  value : TokenOf tagValueKinds

def Signed.tokens {sign : TokenKind} (signed : Signed sign) : List Token :=
  [signed.mark.val, signed.value.val]

structure Attribute where
  name : TokenOf tagValueKinds
  connector : TokenOf [.attributeConnector]
  value : TokenOf attributeValueKinds
  quoted : value.val.kind = .quotedString → Text.Quotes '"' value.val.content

def Attribute.tokens (one : Attribute) : List Token :=
  [one.name.val, one.connector.val, one.value.val]

structure Head where
  element : Option (Signed .elementIdentifier)
  id : Option (Signed .elementIdIdentifier)
  classes : Option (Signed .elementClassIdentifier)
  attributes : List Attribute
  marked : (element.isSome || id.isSome || classes.isSome) = true

def Head.tokens (head : Head) : List Token :=
  head.element.toList.flatMap Signed.tokens ++ head.id.toList.flatMap Signed.tokens ++
    head.classes.toList.flatMap Signed.tokens ++ head.attributes.flatMap Attribute.tokens

theorem Head.tokens_ne_nil (head : Head) : head.tokens ≠ [] := by
  have marked := head.marked
  cases one : head.element <;> cases two : head.id <;> cases three : head.classes <;>
    simp_all [tokens, Signed.tokens]

/-- What a line says behind its tag, or without one. -/
inductive Matter where
  | absent
  | text (words : TokenOf [.text])
  | code (sign : TokenOf [.codeIdentifier]) (expression : TokenOf [.expression])
  | silent (sign : TokenOf [.silentCodeIdentifier]) (statement : TokenOf [.expression])
  | comment (sign : TokenOf [.commentIdentifier]) (note : TokenOf [.comment])

def Matter.tokens : Matter → List Token
  | absent => []
  | text words => [words.val]
  | code sign expression => [sign.val, expression.val]
  | silent sign statement => [sign.val, statement.val]
  | comment sign note => [sign.val, note.val]

/-- The statement of silent code. -/
def Matter.silent? : Matter → Option Text
  | silent _ statement => some statement.val.content
  | _ => none

/-- Whether it is code, which takes deeper lines for its block. -/
def Matter.isCode : Matter → Bool
  | code _ _ => true
  | silent _ _ => true
  | _ => false

inductive Form where
  | docType (sign : TokenOf [.docTypeIdentifier]) (type : Option (TokenOf [.docType]))
  | entry (head : Option Head) (matter : Matter)

def Form.tokens : Form → List Token
  | docType sign type => sign.val :: type.toList.map Subtype.val
  | entry head matter => head.toList.flatMap Head.tokens ++ matter.tokens

def Form.silent? : Form → Option Text
  | docType _ _ => none
  | entry _ matter => matter.silent?

def Form.isTagged : Form → Bool
  | docType _ _ => false
  | entry head _ => head.isSome

/-- Whether there is something in it that deeper lines keep open. -/
def Form.mayOpen : Form → Bool
  | docType _ _ => false
  | entry head matter => head.isSome || matter.isCode

structure Line where
  indent : Option (TokenOf [.whiteSpace])
  form : Form

namespace Line

def depth (line : Line) : Nat := (line.indent.map (·.val.content.length)).getD 0

def tokens (line : Line) : List Token := line.indent.toList.map Subtype.val ++ line.form.tokens

/-- Whether deeper lines follow. -/
def opens (line : Line) : List Line → Bool
  | [] => false
  | next :: _ => line.depth < next.depth

end Line

/-! ### Kinds -/

/-- Whether the tokens, if there are any, begin with one of the kinds. -/
def Leads (kinds : List TokenKind) (tokens : List Token) : Prop :=
  ∀ token ∈ tokens.head?, token.kind ∈ kinds

theorem leads_nil (kinds : List TokenKind) : Leads kinds [] := by
  simp [Leads]

theorem leads_cons {kinds : List TokenKind} {token : Token} {rest : List Token} :
    Leads kinds (token :: rest) ↔ token.kind ∈ kinds := by
  simp [Leads]

theorem Leads.other {kinds : List TokenKind} {tokens : List Token} (leads : Leads kinds tokens)
    {kind : TokenKind} (missing : kind ∉ kinds) : ∀ token ∈ tokens.head?, token.kind ≠ kind :=
  fun token first same => missing (same ▸ leads token first)

theorem leads_append {few many : List TokenKind} {left right : List Token}
    (first : Leads few left) (second : Leads many right) : Leads (few ++ many) (left ++ right) := by
  cases left with
  | nil => exact fun token same => List.mem_append_right _ (second token same)
  | cons token rest => exact leads_cons.mpr (List.mem_append_left _ (leads_cons.mp first))

/-- The kinds that what stands behind a tag begins with. -/
def matterKinds : List TokenKind :=
  [.text, .codeIdentifier, .silentCodeIdentifier, .commentIdentifier]

theorem Matter.leads_tokens (matter : Matter) : Leads matterKinds matter.tokens := by
  cases matter with
  | absent => exact leads_nil _
  | text words => exact leads_cons.mpr (by simp [words.kind_eq, matterKinds])
  | code sign _ => exact leads_cons.mpr (by simp [sign.kind_eq, matterKinds])
  | silent sign _ => exact leads_cons.mpr (by simp [sign.kind_eq, matterKinds])
  | comment sign _ => exact leads_cons.mpr (by simp [sign.kind_eq, matterKinds])

theorem leads_attributes (attributes : List Attribute) :
    Leads tagValueKinds (attributes.flatMap Attribute.tokens) := by
  cases attributes with
  | nil => exact leads_nil _
  | cons first rest => exact leads_cons.mpr first.name.property

theorem leads_signed {sign : TokenKind} (signed : Option (Signed sign)) :
    Leads [sign] (signed.toList.flatMap Signed.tokens) := by
  cases signed with
  | none => exact leads_nil _
  | some signed => exact leads_cons.mpr signed.mark.property

end Stencil.Markup
