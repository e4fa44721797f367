import Stencil.Proofs.Static.Entries

/-!
What a template without code puts out can be read as code if its tokens can: a program is no text
with a NUL in it, and the document has one only where a token says one.
-/

set_option autoImplicit false

namespace Stencil

open Markup Script.Static

namespace DocType

-- Reading a long literal character by character is slow, so its characters are compared at once.
theorem not_mem_literal {c : Char} {literal : String} {chars : List Char}
    (same : literal = String.ofList chars) (apart : c ∉ chars) : c ∉ literal.toList := by
  rw [same, String.toList_ofList]
  exact apart

theorem not_mem_literals {c : Char} {first second : String} {left right : List Char}
    (same : first = String.ofList left) (other : second = String.ofList right)
    (apart : c ∉ left ++ right) : c ∉ (first ++ second).toList := by
  rw [same, other, String.toList_append, String.toList_ofList, String.toList_ofList]
  exact apart

theorem readable_named : ∀ entry ∈ named, '\x00' ∉ entry.2 := by
  have two {name first second : String} {left right : List Char}
      (same : first = String.ofList left) (other : second = String.ofList right)
      (apart : '\x00' ∉ left ++ right) : '\x00' ∉ (name.toList, (first ++ second).toList).2 :=
    not_mem_literals same other apart
  repeat' refine List.forall_mem_cons.mpr ⟨?_, ?_⟩
  · exact two rfl rfl (by decide +kernel)
  · exact two rfl rfl (by decide +kernel)
  · exact not_mem_literal rfl (by decide +kernel)
  · exact two rfl rfl (by decide +kernel)
  · exact two rfl rfl (by decide +kernel)
  · exact two rfl rfl (by decide +kernel)
  · exact two rfl rfl (by decide +kernel)
  · exact List.forall_mem_nil _

theorem readable_standard : '\x00' ∉ standard := not_mem_literals rfl rfl (by decide +kernel)

theorem readable_declaration (name : Option Text) : '\x00' ∉ (declaration? name).getD [] := by
  cases name with
  | none => exact readable_standard
  | some name =>
    rw [declaration?]
    cases found : named.find? fun entry => entry.1 == name with
    | none => simp
    | some entry => exact readable_named entry (List.mem_of_find?_eq_some found)

end DocType

namespace Markup

/-- Tokens that say no NUL. -/
def NulFree (tokens : List Token) : Prop := ∀ token ∈ tokens, '\x00' ∉ said token

variable {head : Head} {tokens others : List Token}

theorem NulFree.of_subset (readable : NulFree tokens) (part : others ⊆ tokens) :
    NulFree others :=
  fun token member => readable token (part member)

theorem readable_name (readable : NulFree head.tokens) : '\x00' ∉ head.name := by
  cases same : head.element with
  | none =>
    simp only [Head.name, same]
    decide
  | some signed =>
    have inside : signed.value.val ∈ head.tokens := by simp [Head.tokens, same, Signed.tokens]
    simp only [Head.name, same]
    exact readable _ inside

theorem readable_pairs (readable : NulFree head.tokens) {pair : Text × Text}
    (member : pair ∈ head.pairs) : '\x00' ∉ pairText pair := by
  have parts : '\x00' ∉ pair.1 ∧ '\x00' ∉ pair.2 := by
    simp only [Head.pairs, List.mem_append, List.mem_map, Option.mem_toList] at member
    rcases member with (⟨signed, same, rfl⟩ | ⟨signed, same, rfl⟩) | ⟨one, inside, rfl⟩
    · have value : signed.value.val ∈ head.tokens := by simp [Head.tokens, same, Signed.tokens]
      exact ⟨by simp, readable _ value⟩
    · have value : signed.value.val ∈ head.tokens := by simp [Head.tokens, same, Signed.tokens]
      exact ⟨by simp, readable _ value⟩
    · have both : one.name.val ∈ head.tokens ∧ one.value.val ∈ head.tokens := by
        simp only [Head.tokens, List.mem_append, List.mem_flatMap]
        exact ⟨.inr ⟨one, inside, by simp [Attribute.tokens]⟩,
          .inr ⟨one, inside, by simp [Attribute.tokens]⟩⟩
      exact ⟨readable _ both.1, readable _ both.2⟩
  simp [pairText, parts.1, parts.2]

theorem readable_start (readable : NulFree head.tokens) : '\x00' ∉ head.start := by
  intro nul
  simp only [Head.start, List.mem_append, List.mem_cons, List.mem_flatMap] at nul
  rcases nul with ((first | name) | ⟨pair, member, inside⟩) | last
  · exact absurd first (by decide)
  · exact readable_name readable name
  · exact readable_pairs readable member inside
  · exact absurd last (by decide)

theorem readable_stop (readable : NulFree head.tokens) : '\x00' ∉ head.stop := by
  simp [Head.stop, readable_name readable]

theorem escaped_nul {text : Text} : '\x00' ∈ escaped text ↔ '\x00' ∈ text := by
  have one (c : Char) : '\x00' ∈ escapedChar c ↔ '\x00' = c := by
    unfold escapedChar
    split <;> simp
  simp [escaped, one]

theorem readable_shown {matter : Matter} {text : Text} (readable : NulFree matter.tokens)
    (shown : text ∈ matter.shown?) : '\x00' ∉ text := by
  have content {kind : TokenKind} (token : TokenOf [kind]) (other : kind ≠ .quotedString)
      (member : token.val ∈ matter.tokens) : '\x00' ∉ token.val.content := by
    have found := readable _ member
    rwa [said, token.kind_eq, if_neg other] at found
  cases matter with
  | text words =>
    cases shown
    exact mt escaped_nul.mp (content words (by decide) (by simp [Matter.tokens]))
  | comment sign note =>
    cases shown
    simp [content note (by decide) (by simp [Matter.tokens])]
  | absent => cases shown
  | code sign expression => cases shown
  | silent sign statement => cases shown

theorem readable_spaces (depth : Nat) {text : Text} (readable : '\x00' ∉ text) :
    '\x00' ∉ Text.spaces depth ++ text := by
  simp [Text.spaces, readable]

theorem readable_texts {line : Line} (readable : NulFree line.tokens) (deeper : Bool) :
    ∀ text ∈ line.texts deeper, '\x00' ∉ text := by
  have inside : NulFree line.form.tokens :=
    readable.of_subset fun token member => List.mem_append_right _ member
  have shown {matter : Matter} (part : NulFree matter.tokens) :
      ∀ text ∈ matter.shown?.toList.map (Text.spaces line.depth ++ ·), '\x00' ∉ text := by
    intro text member
    obtain ⟨one, known, rfl⟩ := List.mem_map.mp member
    exact readable_spaces _ (readable_shown part (Option.mem_toList.mp known))
  rw [Line.texts]
  generalize line.form = form at inside
  cases form with
  | docType sign type => simpa using DocType.readable_declaration _
  | entry head matter =>
    have part : NulFree matter.tokens :=
      inside.of_subset fun token member => List.mem_append_right _ member
    cases head with
    | none => exact shown part
    | some head =>
      have tag : NulFree head.tokens :=
        inside.of_subset fun token member => List.mem_append_left _ (by simpa using member)
      have start := readable_spaces line.depth (readable_start tag)
      cases deeper with
      | true => exact List.forall_mem_cons.mpr ⟨start, shown part⟩
      | false =>
        have between : '\x00' ∉ matter.shown?.getD [] := by
          cases same : matter.shown? with
          | none => simp
          | some text => exact readable_shown part same
        have all : '\x00' ∉ Text.spaces line.depth ++ head.start ++ matter.shown?.getD [] ++
            head.stop := by
          simp only [List.mem_append] at start ⊢
          simp only [start, between, readable_stop tag, or_self, not_false_eq_true]
        simpa using all

theorem readable_document {lines : List Line} {opened : List Element}
    (stops : ∀ one ∈ opened, '\x00' ∉ one.stop) (readable : NulFree (lines.flatMap Line.tokens)) :
    ∀ text ∈ document opened lines, '\x00' ∉ text := by
  have closings {all : List Element} (stops : ∀ one ∈ all, '\x00' ∉ one.stop) :
      ∀ text ∈ all.map Element.closing, '\x00' ∉ text := by
    intro text member
    obtain ⟨one, known, rfl⟩ := List.mem_map.mp member
    exact readable_spaces _ (stops one known)
  induction lines generalizing opened with
  | nil => exact closings stops
  | cons line rest ih =>
    have here : NulFree line.tokens :=
      readable.of_subset fun token member => by simp [member]
    have later : NulFree (rest.flatMap Line.tokens) := by
      refine readable.of_subset fun token member => ?_
      rw [List.flatMap_cons]
      exact List.mem_append_right _ member
    have left : ∀ one ∈ line.left (line.opens rest), '\x00' ∉ one.stop := by
      rw [Line.left]
      split
      next head matter form =>
        split
        next =>
          have tag : NulFree head.tokens := here.of_subset fun token member => by
            simp [Line.tokens, form, Form.tokens, member]
          simpa using readable_stop tag
        next => exact List.forall_mem_nil _
      next => exact List.forall_mem_nil _
    have kept : ∀ one ∈ opened.filter fun element => element.depth < line.depth,
        '\x00' ∉ one.stop := fun one member => stops one (List.mem_filter.mp member).1
    have ended : ∀ one ∈ opened.filter fun element => line.depth ≤ element.depth,
        '\x00' ∉ one.stop := fun one member => stops one (List.mem_filter.mp member).1
    rw [document]
    refine List.forall_mem_append.mpr ⟨List.forall_mem_append.mpr ⟨closings ended, ?_⟩, ?_⟩
    · exact readable_texts here _
    · exact ih (List.forall_mem_append.mpr ⟨left, kept⟩) later

end Markup

namespace Script.Static

theorem Piece.readable_of_shown {piece : Piece} (shown : '\x00' ∉ piece.shown) :
    piece.Readable := by
  obtain ⟨escaped, text⟩ := piece
  cases escaped with
  | false => exact shown
  | true =>
    rw [Piece.shown, if_pos rfl, escapeText_false] at shown
    exact mt escaped_nul.mpr shown

theorem Entry.readable_of_shown {entry : Entry} (shown : '\x00' ∉ entry.shown) :
    entry.Readable :=
  fun _ member => Piece.readable_of_shown fun nul =>
    shown (List.mem_flatMap.mpr ⟨_, member, nul⟩)

end Script.Static

end Stencil
