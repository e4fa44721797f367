import Stencil.Proofs.Builder.Line
import Stencil.Proofs.Builder.Stack
import Stencil.Proofs.Static.Piece
import Stencil.Script.Builtin

/-!
The text that a template without code stands for, read off its lines alone. The statements of the
template put out the entries of that document.
-/

set_option autoImplicit false

/-! ### Documents -/

namespace Stencil.Markup

/-! ### Parts of a line -/

/-- Escapes a character that means something in markup. -/
def escapedChar : Char → Text
  | '&' => "&amp;".toList
  | '<' => "&lt;".toList
  | '>' => "&gt;".toList
  | c => [c]

def escaped (text : Text) : Text := text.flatMap escapedChar

/-- What a token says: a quoted one says what its quotes stand for. -/
def said (token : Token) : Text :=
  if token.kind = .quotedString then quotedText token.content else token.content

def pairText (pair : Text × Text) : Text := ' ' :: pair.1 ++ "=\"".toList ++ pair.2 ++ ['"']

namespace Head

def name (head : Head) : Text := (head.element.map fun signed => said signed.value.val).getD
  "div".toList

/-- The attributes of a tag; those with signs of their own come first. -/
def pairs (head : Head) : List (Text × Text) :=
  (head.id.toList.map fun signed => ("id".toList, said signed.value.val)) ++
    (head.classes.toList.map fun signed => ("class".toList, said signed.value.val)) ++
    head.attributes.map fun one => (said one.name.val, said one.value.val)

def start (head : Head) : Text :=
  '<' :: head.name ++ head.pairs.flatMap pairText ++ ['>']

def stop (head : Head) : Text := '<' :: '/' :: head.name ++ ['>']

end Head

/-- What a line says behind its tag, unless it is code. -/
def Matter.shown? : Matter → Option Text
  | text words => some (escaped words.val.content)
  | comment _ note => some ("<!-- ".toList ++ note.val.content ++ " -->".toList)
  | _ => none

/-! ### The document -/

/-- An element that deeper lines keep open. -/
structure Element where
  depth : Nat
  stop : Text

def Element.closing (element : Element) : Text := Text.spaces element.depth ++ element.stop

namespace Line

/-- The entries of a line, given whether deeper lines follow. -/
def texts (line : Line) (deeper : Bool) : List Text :=
  match line.form with
  | .docType _ type => [(DocType.declaration? (type.map (·.val.content))).getD []]
  | .entry none matter => matter.shown?.toList.map (Text.spaces line.depth ++ ·)
  | .entry (some head) matter =>
    if deeper then
      (Text.spaces line.depth ++ head.start) ::
        matter.shown?.toList.map (Text.spaces line.depth ++ ·)
    else [Text.spaces line.depth ++ head.start ++ matter.shown?.getD [] ++ head.stop]

/-- The element that a line leaves open, given whether deeper lines follow. -/
def left (line : Line) (deeper : Bool) : List Element :=
  match line.form with
  | .entry (some head) _ => if deeper then [⟨line.depth, head.stop⟩] else []
  | _ => []

end Line

/-- The entries of lines below elements that are open, the innermost first. An element is closed
before the next line that is not deeper than it. -/
def document (opened : List Element) : List Line → List Text
  | [] => opened.map Element.closing
  | line :: rest =>
    let ended := opened.filter fun element => line.depth ≤ element.depth
    let kept := opened.filter fun element => element.depth < line.depth
    ended.map Element.closing ++ line.texts (line.opens rest) ++
      document (line.left (line.opens rest) ++ kept) rest

/-! ### Templates without code -/

/-- Whether a literal stands for code points that are no text. -/
def hasSurrogates (literal : Text) : Bool :=
  match Script.literal literal with
  | .ok (.points _) => true
  | _ => false

/-- Tokens without code, whose texts can stand in code. -/
structure IsStatic (tokens : List Token) : Prop where
  noCode : ∀ token ∈ tokens, token.kind ≠ .expression ∧ token.kind ≠ .bracketExpression
  noNul : ∀ token ∈ tokens, '\x00' ∉ said token
  noSurrogates : ∀ token ∈ tokens, token.kind = .quotedString →
    hasSurrogates token.content = false

instance (tokens : List Token) : Decidable (IsStatic tokens) :=
  decidable_of_iff
    ((∀ token ∈ tokens, token.kind ≠ .expression ∧ token.kind ≠ .bracketExpression) ∧
      (∀ token ∈ tokens, '\x00' ∉ said token) ∧
      ∀ token ∈ tokens, token.kind = .quotedString → hasSurrogates token.content = false)
    ⟨fun ⟨code, nul, surrogates⟩ => ⟨code, nul, surrogates⟩,
      fun static => ⟨static.noCode, static.noNul, static.noSurrogates⟩⟩

end Stencil.Markup

/-! ### Entries -/

namespace Stencil

open Markup Script.Static

/-! ### Literals -/

namespace Fragment

theorem literalBody_spaces (count : Nat) : literalBody (Text.spaces count) = Text.spaces count := by
  induction count with
  | zero => rfl
  | succ count ih =>
    rw [Text.spaces, List.replicate_succ, ← List.singleton_append, literalBody_append]
    exact congrArg (' ' :: ·) ih

theorem literalBody_cons {c : Char} (plain : escaped? c = none) (rest : Text) :
    literalBody (c :: rest) = c :: literalBody rest := by
  simp [literalBody, Text.replaceEach, plain]

end Fragment

namespace Markup

theorem escapeChar_false (c : Char) : Script.Builtin.escapeChar false c = escapedChar c := by
  unfold Script.Builtin.escapeChar escapedChar
  split <;> simp_all

theorem escapeText_false (text : Text) : Script.Builtin.escapeText false text = escaped text := by
  simp only [Script.Builtin.escapeText, escaped, funext escapeChar_false]

theorem escaped_spaces (count : Nat) (text : Text) :
    escaped (Text.spaces count ++ text) = Text.spaces count ++ escaped text := by
  induction count with
  | zero => rfl
  | succ count ih =>
    rw [Text.spaces, List.replicate_succ]
    exact congrArg (' ' :: ·) ih

/-! ### Tags -/

variable {tokens : List Token} {token : Token}

theorem pieceText_said (noCode : token.kind ≠ .bracketExpression) :
    pieceText token = Fragment.literalBody (said token) := by
  rw [pieceText, said]
  split
  next same => exact absurd same noCode
  next same => rw [if_pos same]
  next other => rw [if_neg other, Fragment.ofText, if_pos rfl]

theorem attributeText_literal (name value : Text) :
    Builder.attributeText (Fragment.literalBody name) (Fragment.literalBody value) =
      Fragment.literalBody (pairText (name, value)) := by
  have sign : Fragment.literalBody "=\"".toList = "=\"".toList := rfl
  have quote : Fragment.literalBody ['"'] = ['"'] := rfl
  rw [pairText, List.cons_append, List.cons_append, List.cons_append, Fragment.literalBody_cons rfl,
    Fragment.literalBody_append, Fragment.literalBody_append, Fragment.literalBody_append, sign,
    quote]
  rfl

structure Plain (token : Token) : Prop where
  noCode : token.kind ≠ .expression
  noBracket : token.kind ≠ .bracketExpression

theorem IsStatic.plain (static : IsStatic tokens) (member : token ∈ tokens) : Plain token :=
  ⟨(static.noCode token member).1, (static.noCode token member).2⟩

variable {head : Head}

theorem Head.text_name (plain : ∀ token ∈ head.tokens, Plain token) :
    head.text.name = Fragment.literalBody head.name := by
  cases same : head.element with
  | none =>
    simp only [Head.text, Head.name, same, Option.map_none, Option.getD_none]
    rfl
  | some signed =>
    have inside : signed.value.val ∈ head.tokens := by simp [tokens, same, Signed.tokens]
    simp only [Head.text, Head.name, same, Option.map_some, Option.getD_some]
    exact pieceText_said (plain _ inside).noBracket

theorem fixedText_literal {sign : TokenKind} (name : Text) (signed : Option (Signed sign))
    (fixed : Fragment.literalBody name = name)
    (plain : ∀ token ∈ signed.toList.flatMap Signed.tokens, Plain token) :
    fixedText name signed = Fragment.literalBody
      ((signed.toList.map fun signed => (name, said signed.value.val)).flatMap pairText) := by
  cases signed with
  | none => rfl
  | some signed =>
    have inside := plain signed.value.val (by simp [Signed.tokens])
    have shape := attributeText_literal name (said signed.value.val)
    rw [fixed, ← pieceText_said inside.noBracket] at shape
    simp [fixedText, shape]

theorem attributes_literal {all : List Attribute}
    (plain : ∀ token ∈ all.flatMap Attribute.tokens, Plain token) :
    (all.map Attribute.text).flatten = Fragment.literalBody
      ((all.map fun one => (said one.name.val, said one.value.val)).flatMap pairText) := by
  induction all with
  | nil => rfl
  | cons one all ih =>
    have name := plain one.name.val (by simp [Attribute.tokens])
    have value := plain one.value.val (by simp [Attribute.tokens])
    have others := ih fun token member => plain token (by simp [member])
    rw [List.map_cons, List.flatten_cons, others, List.map_cons, List.flatMap_cons,
      Fragment.literalBody_append, Attribute.text, pieceText_said name.noBracket,
      pieceText_said value.noBracket, attributeText_literal]

theorem Head.text_attributes (plain : ∀ token ∈ head.tokens, Plain token) :
    head.text.attributes = Fragment.literalBody (head.pairs.flatMap pairText) := by
  simp only [Head.tokens, List.mem_append] at plain
  have id := fixedText_literal "id".toList head.id rfl fun token member =>
    plain token (.inl (.inl (.inr member)))
  have classes := fixedText_literal "class".toList head.classes rfl fun token member =>
    plain token (.inl (.inr member))
  have others := attributes_literal fun token member => plain token (.inr member)
  rw [Head.text, id, classes, others, Head.pairs, List.flatMap_append, List.flatMap_append,
    Fragment.literalBody_append, Fragment.literalBody_append]

theorem Head.text_start (plain : ∀ token ∈ head.tokens, Plain token) :
    head.text.start = Fragment.literalBody head.start := by
  have last : Fragment.literalBody ['>'] = ['>'] := rfl
  rw [Builder.TagText.start, Head.text_name plain, Head.text_attributes plain, Head.start,
    List.cons_append, List.cons_append, List.cons_append, List.cons_append,
    Fragment.literalBody_cons rfl, Fragment.literalBody_append, Fragment.literalBody_append, last]

theorem Head.text_stop (plain : ∀ token ∈ head.tokens, Plain token) :
    head.text.stop = Fragment.literalBody head.stop := by
  have last : Fragment.literalBody ['>'] = ['>'] := rfl
  rw [Builder.TagText.stop, Head.text_name plain, Head.stop, List.cons_append, List.cons_append,
    Fragment.literalBody_cons rfl, Fragment.literalBody_cons rfl, Fragment.literalBody_append, last]
  rfl

/-! ### Content -/

namespace Matter

/-- What a line without code says behind its tag, as a piece of an entry. -/
def piece? : Matter → Option Piece
  | text words => some ⟨true, words.val.content⟩
  | comment _ note => some ⟨false, "<!-- ".toList ++ note.val.content ++ " -->".toList⟩
  | _ => none

theorem shown?_eq (matter : Matter) : matter.shown? = matter.piece?.map Piece.shown := by
  cases matter <;> simp [shown?, piece?, Piece.shown, escapeText_false]

end Matter

end Markup

/-! ### Statements -/

/-- The expression that a statement puts out, if that is all that it does. -/
def Statement.expression? : Statement → Option Text
  | .line (.output output) => some output.expression
  | _ => none

/-- Statements that put out texts, one an entry. -/
def Puts (statements : List Statement) (texts : List Text) : Prop :=
  ∃ (outputs : List Output) (entries : List Entry),
    statements = (outputs.map fun output => .line (.output output)) ∧
    outputs.map Output.expression = entries.map Entry.code ∧
    entries.map Entry.shown = texts ∧ ∀ entry ∈ entries, entry.others.length ≤ 3

namespace Puts

variable {first second : List Statement} {texts more : List Text} {text : Text}

theorem nil : Puts [] [] := ⟨[], [], rfl, rfl, rfl, by simp⟩

theorem append (one : Puts first texts) (other : Puts second more) :
    Puts (first ++ second) (texts ++ more) := by
  obtain ⟨outputs, entries, rfl, coded, shown, good⟩ := one
  obtain ⟨later, others, rfl, also, added, fine⟩ := other
  refine ⟨outputs ++ later, entries ++ others, by rw [List.map_append], ?_, ?_, ?_⟩
  · rw [List.map_append, coded, also, List.map_append]
  · rw [List.map_append, shown, added]
  · exact List.forall_mem_append.mpr ⟨good, fine⟩

theorem of_entry {output : Output} (entry : Entry) (same : output.expression = entry.code)
    (shown : entry.shown = text) (short : entry.others.length ≤ 3) :
    Puts [.line (.output output)] [text] :=
  ⟨[output], [entry], rfl, by rw [List.map_singleton, same, List.map_singleton],
    by rw [List.map_singleton, shown], by simp [short]⟩

/-- What statements put out is known from their expressions. -/
theorem of_expressions {entries : List Entry} {statements : List Statement}
    (same : statements.map Statement.expression? = entries.map fun entry => some entry.code)
    (short : ∀ entry ∈ entries, entry.others.length ≤ 3) :
    Puts statements (entries.map Entry.shown) := by
  induction statements generalizing entries with
  | nil =>
    obtain rfl := List.map_eq_nil_iff.mp same.symm
    exact nil
  | cons statement rest ih =>
    obtain ⟨entry, more, rfl, code, others⟩ := List.map_eq_cons_iff.mp same.symm
    obtain ⟨here, later⟩ := List.forall_mem_cons.mp short
    cases statement with
    | line line =>
      cases line with
      | output output =>
        exact append (of_entry entry (Option.some.inj code).symm rfl here) (ih others.symm later)
      | control content depth => cases code
    | block header body => cases code
    | function number shared body => cases code

theorem indented_literal (depth : Nat) (text : Text) :
    Text.spaces depth ++ Fragment.literalBody text =
      Fragment.literalBody (Text.spaces depth ++ text) := by
  rw [Fragment.literalBody_append, Fragment.literalBody_spaces]

theorem expression_piece (piece : Piece) :
    Output.expression ⟨piece.kind, piece.body, 0⟩ = piece.code := by
  obtain ⟨escaped, text⟩ := piece
  cases escaped <;> rfl

theorem piece (piece : Piece) (depth : Nat) :
    Puts [.line (.output ⟨piece.kind, piece.body, depth⟩)]
      [Text.spaces depth ++ piece.shown] := by
  obtain ⟨escaped, text⟩ := piece
  refine of_entry ⟨⟨escaped, Text.spaces depth ++ text⟩, []⟩ ?_ ?_ (Nat.zero_le _)
  · cases escaped <;> simp [Output.expression, Output.indentation, indented_literal, Entry.code,
      Script.sumCode, Piece.addend, Piece.code, Piece.body, Piece.kind]
  · cases escaped <;> simp [Entry.shown, Entry.pieces, Piece.shown, escapeText_false,
      escaped_spaces]

/-- A tag and its content in one entry. Its indentation is a literal of its own. -/
theorem fused {tag : Builder.TagText} {start stop : Text} (piece : Piece) (depth : Nat)
    (starts : tag.start = Fragment.literalBody start)
    (stops : tag.stop = Fragment.literalBody stop) :
    Puts [.line (.output ⟨.expression, Builder.fused tag piece.kind piece.body, depth⟩)]
      [Text.spaces depth ++ start ++ piece.shown ++ stop] := by
  have literal (text : Text) : Output.expression ⟨.safe, Fragment.literalBody text, 0⟩ =
      (Piece.mk false text).code := rfl
  have code : Builder.fused tag piece.kind piece.body =
      (Entry.mk ⟨false, start⟩ [piece, ⟨false, stop⟩]).code := by
    simp only [Builder.fused, List.map_cons, List.map_nil, starts, stops, literal,
      expression_piece, Entry.code_eq, Entry.pieces]
  by_cases flush : depth = 0
  next =>
    subst flush
    refine of_entry ⟨⟨false, start⟩, [piece, ⟨false, stop⟩]⟩ code ?_ (by simp)
    simp [Entry.shown, Entry.pieces, Piece.shown, Text.spaces]
  next =>
    refine of_entry ⟨⟨false, Text.spaces depth⟩, [⟨false, start⟩, piece, ⟨false, stop⟩]⟩
      ?_ ?_ (by simp)
    · have positive : (0 : Int) < depth := by omega
      have margin : (Piece.mk false (Text.spaces depth)).code = literalOf (Text.spaces depth) := by
        simp [Piece.code, Piece.body, Fragment.literalBody_spaces]
      simp only [Output.expression, if_pos positive, Output.indentation, Int.toNat_natCast, code,
        Entry.code, Script.sumCode, Piece.addend, margin, List.map_cons, List.flatMap_cons,
        List.append_assoc]
    · simp [Entry.shown, Entry.pieces, Piece.shown]

end Puts

end Stencil
