import Stencil.Proofs.Markup.Row
import Stencil.Proofs.Outcome
import Stencil.Proofs.Text.Unbroken

/-!
No line break gets into a token: a row has none, and what is cut out of a row has none either.
-/

set_option autoImplicit false

namespace Stencil

/-! ### Lines -/

namespace Text

/-- Line feeds and carriage returns are in the ending of a line only, and they are all of it. -/
def Line.Cut (line : Line) : Prop :=
  Unbroken line.body ∧ (line.ending.all (fun c => c == '\n' || c == '\r') = true ∨
    Unbroken line.ending)

theorem cut_boundary (c : Char) : Line.Cut ⟨[], [c]⟩ := by
  refine ⟨unbroken_nil, ?_⟩
  by_cases breaks : c = '\n' ∨ c = '\r'
  · exact .inl (by simpa using breaks)
  · obtain ⟨feed, carriage⟩ := not_or.mp breaks
    exact .inr (by simp [feed, carriage])

theorem cut_extend {c : Char} (inside : isBoundary c = false) {found : List Line}
    (cut : ∀ line ∈ found, line.Cut) : ∀ line ∈ Line.extend c found, line.Cut := by
  have plain : c ≠ '\n' ∧ c ≠ '\r' := by
    constructor
    · rintro rfl
      exact absurd inside (by decide)
    · rintro rfl
      exact absurd inside (by decide)
  cases found with
  | nil => exact List.forall_mem_singleton.mpr ⟨by simp [plain], .inl rfl⟩
  | cons first rest =>
    obtain ⟨here, later⟩ := List.forall_mem_cons.mp cut
    exact List.forall_mem_cons.mpr ⟨⟨unbroken_cons.mpr ⟨plain, here.1⟩, here.2⟩, later⟩

theorem cut_lines (text : Text) : ∀ line ∈ lines text, line.Cut := by
  fun_induction lines text with
  | case1 => simp
  | case2 rest ih => exact List.forall_mem_cons.mpr ⟨⟨unbroken_nil, .inl rfl⟩, ih⟩
  | case3 c rest _ boundary ih => exact List.forall_mem_cons.mpr ⟨cut_boundary c, ih⟩
  | case4 c rest _ inside ih => exact cut_extend (by simpa using inside) ih

end Text

namespace Markup

theorem unbroken_row {source : Text} {row : Row} (member : row ∈ rows source) :
    row.text.Unbroken := by
  obtain ⟨line, inside, same⟩ := mem_rowsFrom member
  obtain ⟨body, ending⟩ := Text.cut_lines source line inside
  rw [same, Lexer.content]
  split
  next => exact body
  next other =>
    -- a boundary of another sort stays in the text
    exact Text.unbroken_append.mpr ⟨body, ending.resolve_left other⟩

end Markup

/-! ### Pieces of a line -/

namespace Lexer

open Text (Unbroken)

variable {cursor after : Cursor}

theorem unbroken_advance (unbroken : Unbroken cursor.rest) (count : Nat) :
    Unbroken (cursor.advance count).rest :=
  unbroken.of_mem fun _ => (List.drop_sublist count cursor.rest).mem

theorem unbroken_skipIndent (unbroken : Unbroken cursor.rest) :
    Unbroken cursor.skipIndent.rest := unbroken_advance unbroken _

theorem unbroken_piece (unbroken : Unbroken cursor.rest) (kind : TokenKind) (count : Nat) :
    Unbroken (cursor.piece kind count).content :=
  unbroken.of_mem fun _ => (List.take_sublist count cursor.rest).mem

theorem unbroken_remainder (unbroken : Unbroken cursor.rest) (kind : TokenKind) :
    Unbroken (cursor.remainder kind).content := unbroken.of_mem fun _ => Text.mem_trimRight

/-- Pieces without line breaks, and a cursor at text without any. -/
def Fine (found : List Piece × Cursor) : Prop :=
  (∀ piece ∈ found.1, Unbroken piece.content) ∧ Unbroken found.2.rest

theorem unbroken_value (unbroken : Unbroken cursor.rest) {piece : Piece}
    (found : value cursor = .ok (piece, after)) : Unbroken piece.content ∧ Unbroken after.rest := by
  have cut (kind : TokenKind) (count : Nat) : Unbroken (cursor.piece kind count).content ∧
      Unbroken (cursor.advance count).rest :=
    ⟨unbroken_piece unbroken kind count, unbroken_advance unbroken count⟩
  unfold value at found
  split at found
  next =>
    split at found
    next stop _ =>
      cases found
      exact cut .bracketExpression stop
    next => cases found
  next =>
    simp only at found
    split at found
    next => cases found
    next =>
      cases found
      exact cut .string _

theorem unbroken_attributeName (unbroken : Unbroken cursor.rest) {piece : Piece}
    (found : attributeName? cursor = .ok (some (piece, after))) :
    Unbroken piece.content ∧ Unbroken after.rest := by
  unfold attributeName? at found
  split at found
  next =>
    obtain ⟨⟨name, behind⟩, read, found⟩ := Outcome.bind_eq_ok.mp found
    simp only [pure, Except.pure, Except.ok.injEq] at found
    split at found
    next =>
      cases found
      exact unbroken_value unbroken read
    next => cases found
  next =>
    simp only [Except.ok.injEq] at found
    split at found
    next =>
      cases found
      exact ⟨unbroken_piece unbroken _ _, unbroken_advance unbroken _⟩
    next => cases found

theorem unbroken_attributeValue (unbroken : Unbroken cursor.rest) {piece : Piece}
    (found : attributeValue cursor = .ok (piece, after)) :
    Unbroken piece.content ∧ Unbroken after.rest := by
  unfold attributeValue at found
  split at found
  next =>
    split at found
    next =>
      cases found
      exact ⟨unbroken_piece unbroken _ _, unbroken_advance unbroken _⟩
    next => cases found
  next => exact unbroken_value unbroken found
  next =>
    simp only at found
    split at found
    next => cases found
    next =>
      cases found
      exact ⟨unbroken_piece unbroken _ _, unbroken_advance unbroken _⟩

theorem fine_attribute (unbroken : Unbroken cursor.rest) {found : List Piece × Cursor}
    (read : attribute? cursor = .ok (some found)) : Fine found := by
  obtain ⟨name?, named, read⟩ := Outcome.bind_eq_ok.mp read
  cases name? with
  | none => cases read
  | some pair =>
    obtain ⟨name, connector⟩ := pair
    obtain ⟨⟨value, behind⟩, valued, read⟩ := Outcome.bind_eq_ok.mp read
    cases read
    obtain ⟨first, between⟩ := unbroken_attributeName (unbroken_skipIndent unbroken) named
    obtain ⟨last, rest⟩ := unbroken_attributeValue (unbroken_advance between 1) valued
    exact ⟨by simp [first, last, unbroken_piece between], rest⟩

theorem fine_attributes {found : List Piece × Cursor} (unbroken : Unbroken cursor.rest)
    (read : attributes cursor = .ok found) : Fine found := by
  induction size : cursor.rest.length using Nat.strongRecOn generalizing cursor found with
  | ind size ih =>
    rw [attributes] at read
    obtain ⟨first?, one, read⟩ := Outcome.bind_eq_ok.mp read
    cases first? with
    | none =>
      cases read
      exact ⟨by simp, unbroken⟩
    | some pair =>
      obtain ⟨first, after⟩ := pair
      obtain ⟨pieces, rest⟩ := fine_attribute unbroken one
      simp only at read
      split at read
      next shorter =>
        obtain ⟨⟨others, last⟩, more, read⟩ := Outcome.bind_eq_ok.mp read
        cases read
        obtain ⟨later, behind⟩ := ih _ (size ▸ shorter) rest more rfl
        exact ⟨List.forall_mem_append.mpr ⟨pieces, later⟩, behind⟩
      next =>
        cases read
        exact ⟨pieces, rest⟩

theorem fine_sign {mark : Char} {kind : TokenKind} {found : List Piece × Cursor}
    (unbroken : Unbroken cursor.rest) (read : sign mark kind cursor = .ok found) : Fine found := by
  unfold sign at read
  split at read
  next =>
    obtain ⟨⟨name, after⟩, valued, read⟩ := Outcome.bind_eq_ok.mp read
    cases read
    obtain ⟨content, rest⟩ := unbroken_value (unbroken_advance unbroken 1) valued
    exact ⟨by simp [content, unbroken_piece unbroken], rest⟩
  next =>
    cases read
    exact ⟨by simp, unbroken⟩

theorem unbroken_signAndRest (unbroken : Unbroken cursor.rest) (identifier kind : TokenKind) :
    ∀ piece ∈ signAndRest identifier kind cursor, Unbroken piece.content := by
  have behind := unbroken_skipIndent (unbroken_advance unbroken 1)
  simp [signAndRest, unbroken_piece unbroken, unbroken_remainder behind]

theorem unbroken_inlineContent {found : List Piece} (unbroken : Unbroken cursor.rest)
    (read : inlineContent cursor = .ok found) : ∀ piece ∈ found, Unbroken piece.content := by
  have start := unbroken_skipIndent unbroken
  unfold inlineContent at read
  simp only at read
  split at read
  next =>
    cases read
    simp
  next =>
    cases read
    exact unbroken_signAndRest start _ _
  next =>
    split at read
    next => cases read
    next =>
      cases read
      exact List.forall_mem_singleton.mpr (unbroken_remainder start _)

theorem unbroken_tag {found : List Piece} (unbroken : Unbroken cursor.rest)
    (read : tag cursor = .ok found) : ∀ piece ∈ found, Unbroken piece.content := by
  obtain ⟨⟨element, one⟩, first, read⟩ := Outcome.bind_eq_ok.mp read
  obtain ⟨⟨id, two⟩, second, read⟩ := Outcome.bind_eq_ok.mp read
  obtain ⟨⟨classes, three⟩, third, read⟩ := Outcome.bind_eq_ok.mp read
  obtain ⟨⟨pairs, four⟩, fourth, read⟩ := Outcome.bind_eq_ok.mp read
  obtain ⟨content, last, read⟩ := Outcome.bind_eq_ok.mp read
  cases read
  obtain ⟨named, behind⟩ := fine_sign unbroken first
  obtain ⟨marked, behind⟩ := fine_sign behind second
  obtain ⟨sorted, behind⟩ := fine_sign behind third
  obtain ⟨paired, behind⟩ := fine_attributes behind fourth
  have inline := unbroken_inlineContent behind last
  simp only [List.forall_mem_append]
  exact ⟨⟨⟨⟨named, marked⟩, sorted⟩, paired⟩, inline⟩

theorem unbroken_docType (unbroken : Unbroken cursor.rest) :
    ∀ piece ∈ docType cursor, Unbroken piece.content := by
  have behind := unbroken_skipIndent (unbroken_advance unbroken 3)
  refine List.forall_mem_cons.mpr ⟨unbroken_piece unbroken _ _, ?_⟩
  split
  next => simp
  next => exact List.forall_mem_singleton.mpr (unbroken_remainder behind _)

theorem unbroken_construct {found : List Piece} (unbroken : Unbroken cursor.rest)
    (read : construct cursor = .ok found) : ∀ piece ∈ found, Unbroken piece.content := by
  unfold construct at read
  split at read
  case h_1 =>
    cases read
    exact unbroken_docType unbroken
  case h_5 =>
    cases read
    exact List.forall_mem_singleton.mpr (unbroken_remainder (unbroken_advance unbroken 1) _)
  case h_6 => exact unbroken_tag unbroken read
  case h_7 => exact unbroken_tag unbroken read
  case h_8 => exact unbroken_tag unbroken read
  case h_9 =>
    cases read
    exact List.forall_mem_singleton.mpr (unbroken_remainder unbroken _)
  all_goals
    cases read
    exact unbroken_signAndRest unbroken _ _

theorem unbroken_pieces {text : Text} {found : List Piece} (unbroken : Unbroken text)
    (read : pieces text = .ok found) : ∀ piece ∈ found, Unbroken piece.content := by
  obtain ⟨others, built, read⟩ := Outcome.bind_eq_ok.mp read
  cases read
  have start : Unbroken (Cursor.mk 0 text).rest := unbroken
  exact List.forall_mem_cons.mpr ⟨unbroken_piece start _ _,
    unbroken_construct (unbroken_skipIndent start) built⟩

/-! ### Tokens -/

theorem unbroken_place {number offset : Nat} {first : Bool} {text : Text} {tokens : List Token}
    (unbroken : Unbroken text) (placed : place number offset first text = .ok tokens) :
    ∀ token ∈ tokens, Unbroken token.content := by
  unfold place at placed
  split at placed
  next found read =>
    cases placed
    have each := unbroken_pieces unbroken read
    intro token member
    obtain ⟨piece, inside, rfl⟩ := List.mem_map.mp member
    refine each piece ?_
    unfold shown at inside
    split at inside
    next => cases inside
    next =>
      split at inside
      next => exact List.mem_cons_of_mem _ inside
      next => exact inside
  next => cases placed

theorem unbroken_lexRows {first : Bool} {rows : List Markup.Row} {tokens : List Token}
    (unbroken : ∀ row ∈ rows, Unbroken row.text) (lexed : Markup.lexRows first rows = .ok tokens) :
    ∀ token ∈ tokens, Unbroken token.content := by
  induction rows generalizing first tokens with
  | nil =>
    cases lexed
    simp
  | cons row rest ih =>
    obtain ⟨here, later⟩ := List.forall_mem_cons.mp unbroken
    obtain ⟨found, placed, lexed⟩ := Outcome.bind_eq_ok.mp lexed
    obtain ⟨others, more, lexed⟩ := Outcome.bind_eq_ok.mp lexed
    cases lexed
    exact List.forall_mem_append.mpr ⟨unbroken_place here placed, ih later more⟩

/-- Whatever the breaks in a source are, none of them is in a token. -/
theorem unbroken_lex {source : Text} {tokens : List Token} (lexed : lex source = .ok tokens) :
    ∀ token ∈ tokens, Unbroken token.content :=
  unbroken_lexRows (fun _ => Markup.unbroken_row) (Markup.lex_eq source ▸ lexed)

end Lexer

end Stencil
