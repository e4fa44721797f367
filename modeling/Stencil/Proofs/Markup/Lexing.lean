import Stencil.Proofs.Markup.Line
import Stencil.Proofs.Outcome
import Stencil.Proofs.Markup.Row

/-!
Whatever lexes is made of lines, and what a line is can be seen from its first characters.
-/

set_option autoImplicit false

namespace Stencil.Markup

open Lexer (Piece Cursor)

def Row.tokens (row : Row) (pieces : List Piece) : List Token :=
  pieces.map fun piece => piece.at row.number row.offset

namespace Row

variable (row : Row)

@[simp] theorem tokens_nil : row.tokens [] = [] := rfl

@[simp] theorem tokens_cons (piece : Piece) (pieces : List Piece) :
    row.tokens (piece :: pieces) = piece.at row.number row.offset :: row.tokens pieces := rfl

@[simp] theorem tokens_append (left right : List Piece) :
    row.tokens (left ++ right) = row.tokens left ++ row.tokens right := by
  simp [tokens]

def placed {kinds : List TokenKind} (piece : Piece) (kind : piece.kind ∈ kinds) : TokenOf kinds :=
  ⟨piece.at row.number row.offset, kind⟩

end Row

/-! ### Signs and attributes -/

theorem value_kind {cursor after : Cursor} {piece : Piece}
    (found : Lexer.value cursor = .ok (piece, after)) : piece.kind ∈ Builder.tagValueKinds := by
  unfold Lexer.value at found
  split at found
  next =>
    split at found
    next =>
      cases found
      simp [Cursor.piece, Builder.tagValueKinds]
    next => cases found
  next =>
    simp only at found
    split at found
    next => cases found
    next =>
      cases found
      simp [Cursor.piece, Builder.tagValueKinds]

/-- Without its sign a cursor stays where it is. -/
theorem sign_tokens (row : Row) {mark : Char} {kind : TokenKind} {cursor after : Cursor}
    {pieces : List Piece} (found : Lexer.sign mark kind cursor = .ok (pieces, after)) :
    ∃ signed : Option (Signed kind), row.tokens pieces = signed.toList.flatMap Signed.tokens ∧
      (cursor.rest.head? = some mark → signed.isSome = true) ∧
      (cursor.rest.head? ≠ some mark → after = cursor) := by
  unfold Lexer.sign at found
  by_cases comes : cursor.rest.head? = some mark
  next =>
    rw [if_pos comes] at found
    obtain ⟨⟨name, last⟩, read, found⟩ := Outcome.bind_eq_ok.mp found
    cases found
    let sign : TokenOf [kind] := row.placed (cursor.piece kind 1) (List.mem_singleton.mpr rfl)
    exact ⟨some ⟨sign, row.placed name (value_kind read)⟩, rfl, fun _ => rfl,
      fun other => absurd comes other⟩
  next =>
    rw [if_neg comes] at found
    cases found
    exact ⟨none, rfl, fun same => absurd same comes, fun _ => rfl⟩

theorem attributeName_kind {cursor connector : Cursor} {piece : Piece}
    (found : Lexer.attributeName? cursor = .ok (some (piece, connector))) :
    piece.kind ∈ Builder.tagValueKinds := by
  unfold Lexer.attributeName? at found
  split at found
  next =>
    obtain ⟨⟨name, last⟩, read, found⟩ := Outcome.bind_eq_ok.mp found
    simp only [pure, Except.pure, Except.ok.injEq] at found
    split at found
    next =>
      cases found
      exact value_kind read
    next => cases found
  next =>
    simp only [Except.ok.injEq] at found
    split at found
    next =>
      cases found
      simp [Cursor.piece, Builder.tagValueKinds]
    next => cases found

theorem attributeValue_kind {cursor after : Cursor} {piece : Piece}
    (found : Lexer.attributeValue cursor = .ok (piece, after)) :
    piece.kind ∈ Builder.attributeValueKinds ∧
      (piece.kind = .quotedString → Text.Quotes '"' piece.content) := by
  unfold Lexer.attributeValue at found
  split at found
  next rest shape =>
    split at found
    next stop ends =>
      cases found
      obtain ⟨body, others, rfl, rfl, inside⟩ := Text.isInside_of_stringEnd? ends
      refine ⟨by simp [Cursor.piece, Builder.attributeValueKinds], fun _ => ⟨body, ?_, inside⟩⟩
      simp [Cursor.piece, shape, List.take_append, List.take_of_length_le]
    next => cases found
  next =>
    have kind := value_kind found
    refine ⟨?_, fun quoted => ?_⟩
    · simp only [Builder.tagValueKinds, List.mem_cons, List.not_mem_nil, or_false] at kind
      rcases kind with kind | kind <;> simp [kind, Builder.attributeValueKinds]
    · rw [quoted] at kind
      exact absurd kind (by decide)
  next =>
    simp only at found
    split at found
    next => cases found
    next =>
      cases found
      simp [Cursor.piece, Builder.attributeValueKinds]

theorem attribute_tokens (row : Row) {cursor after : Cursor} {pieces : List Piece}
    (found : Lexer.attribute? cursor = .ok (some (pieces, after))) :
    ∃ one : Attribute, row.tokens pieces = one.tokens := by
  unfold Lexer.attribute? at found
  obtain ⟨name?, named, found⟩ := Outcome.bind_eq_ok.mp found
  cases name? with
  | none => cases found
  | some pair =>
    obtain ⟨name, connector⟩ := pair
    obtain ⟨⟨value, last⟩, valued, found⟩ := Outcome.bind_eq_ok.mp found
    cases found
    have kind := attributeValue_kind valued
    let equals : TokenOf [.attributeConnector] :=
      row.placed (connector.piece .attributeConnector 1) (List.mem_singleton.mpr rfl)
    exact ⟨⟨row.placed name (attributeName_kind named), equals, row.placed value kind.1, kind.2⟩,
      rfl⟩

theorem attributes_tokens (row : Row) {cursor after : Cursor} {pieces : List Piece}
    (found : Lexer.attributes cursor = .ok (pieces, after)) :
    ∃ all : List Attribute, row.tokens pieces = all.flatMap Attribute.tokens := by
  induction size : cursor.rest.length using Nat.strongRecOn generalizing cursor after pieces with
  | ind size ih =>
    rw [Lexer.attributes] at found
    obtain ⟨result, read, found⟩ := Outcome.bind_eq_ok.mp found
    cases result with
    | none =>
      cases found
      exact ⟨[], rfl⟩
    | some pair =>
      obtain ⟨first, next⟩ := pair
      obtain ⟨one, same⟩ := attribute_tokens row read
      simp only at found
      split at found
      next shorter =>
        obtain ⟨⟨others, last⟩, more, found⟩ := Outcome.bind_eq_ok.mp found
        cases found
        obtain ⟨all, others_same⟩ := ih _ (size ▸ shorter) more rfl
        exact ⟨one :: all, by simp [same, others_same]⟩
      next =>
        cases found
        exact ⟨[one], by simp [same]⟩

/-! ### Contents -/

theorem inlineContent_tokens (row : Row) {cursor : Cursor} {pieces : List Piece}
    (found : Lexer.inlineContent cursor = .ok pieces) :
    ∃ matter : Matter, row.tokens pieces = matter.tokens ∧ matter.silent? = none := by
  unfold Lexer.inlineContent at found
  simp only at found
  split at found
  next =>
    cases found
    exact ⟨.absent, rfl, rfl⟩
  next =>
    cases found
    exact ⟨.code (row.placed _ (List.mem_singleton.mpr rfl))
      (row.placed _ (List.mem_singleton.mpr rfl)), rfl, rfl⟩
  next =>
    split at found
    next => cases found
    next =>
      cases found
      exact ⟨.text (row.placed _ (List.mem_singleton.mpr rfl)), rfl, rfl⟩

theorem tag_tokens (row : Row) {cursor : Cursor} {pieces : List Piece}
    (found : Lexer.tag cursor = .ok pieces)
    (marked : cursor.rest.head? = some '%' ∨ cursor.rest.head? = some '#' ∨
      cursor.rest.head? = some '.') :
    ∃ (head : Head) (matter : Matter), row.tokens pieces = head.tokens ++ matter.tokens ∧
      matter.silent? = none := by
  unfold Lexer.tag at found
  obtain ⟨⟨_, first⟩, readElement, found⟩ := Outcome.bind_eq_ok.mp found
  obtain ⟨⟨_, second⟩, readId, found⟩ := Outcome.bind_eq_ok.mp found
  obtain ⟨⟨_, third⟩, readClasses, found⟩ := Outcome.bind_eq_ok.mp found
  obtain ⟨⟨_, fourth⟩, readPairs, found⟩ := Outcome.bind_eq_ok.mp found
  obtain ⟨_, readContent, found⟩ := Outcome.bind_eq_ok.mp found
  cases found
  obtain ⟨element, elementTokens, elementSome, firstSame⟩ := sign_tokens row readElement
  obtain ⟨id, idTokens, idSome, secondSame⟩ := sign_tokens row readId
  obtain ⟨classes, classTokens, classSome, _⟩ := sign_tokens row readClasses
  obtain ⟨all, pairTokens⟩ := attributes_tokens row readPairs
  obtain ⟨matter, matterTokens, loud⟩ := inlineContent_tokens row readContent
  have one : (element.isSome || id.isSome || classes.isSome) = true := by
    rcases marked with percent | hash | dot
    · simp [elementSome percent]
    · rw [firstSame (by simp [hash])] at idSome
      simp [idSome hash]
    · have same := firstSame (by simp [dot])
      rw [secondSame (by simp [same, dot]), same] at classSome
      simp [classSome dot]
  refine ⟨⟨element, id, classes, all, one⟩, matter, ?_, loud⟩
  simp [Head.tokens, elementTokens, idTokens, classTokens, pairTokens, matterTokens]

/-! ### Lines -/

/-- What a row shows of the line that is made of it. -/
structure Row.Shows (row : Row) (form : Form) : Prop where
  docType : match form with
    | .docType sign type => row.isDocType = true ∧ sign.val = row.docTypeSign ∧
        type.map (·.val.content) = row.docTypeName?
    | .entry _ _ => row.isDocType = false
  silent : form.silent? = row.silent?
  tagged : form.isTagged = row.isTagged
  mayOpen : form.mayOpen = row.mayOpen
  spoken : form.tokens ≠ []

/-- Silent code never stands behind a tag. -/
theorem Row.Shows.loud {row : Row} {head : Head} {matter : Matter}
    (shows : row.Shows (.entry (some head) matter)) : matter.silent? = none := by
  have said : matter.silent? = row.silent? := shows.silent
  have tagged : true = row.isTagged := shows.tagged
  rw [said]
  cases shape : row.content with
  | nil => simp [silent?, shape]
  | cons c rest =>
    have other : c ≠ '-' := by
      rintro rfl
      simp [isTagged, shape] at tagged
    simp [silent?, shape, other]

theorem skipIndent_eq (cursor : Cursor) :
    cursor.skipIndent = ⟨cursor.column + (cursor.rest.takeWhile Text.isIndent).length,
      cursor.rest.dropWhile Text.isIndent⟩ := by
  have drop : cursor.rest.drop (cursor.rest.takeWhile Text.isIndent).length =
      cursor.rest.dropWhile Text.isIndent := by
    calc
      _ = (cursor.rest.takeWhile Text.isIndent ++ cursor.rest.dropWhile Text.isIndent).drop
          (cursor.rest.takeWhile Text.isIndent).length := by rw [List.takeWhile_append_dropWhile]
      _ = _ := List.drop_left
  rw [Cursor.skipIndent, Cursor.advance, drop]

/-- The cursor at the first character of a row that does not indent. -/
def Row.cursor (row : Row) : Cursor := (Cursor.mk 0 row.text).skipIndent

theorem Row.cursor_eq (row : Row) : row.cursor = ⟨row.depth, row.content⟩ := by
  simp [cursor, skipIndent_eq, depth, content]

theorem docType_tokens (row : Row) (starts : row.isDocType = true) :
    ∃ form : Form, row.tokens (Lexer.docType row.cursor) = form.tokens ∧ row.Shows form := by
  obtain ⟨rest, shape⟩ := List.isPrefixOf_iff_prefix.mp starts
  let sign : TokenOf [.docTypeIdentifier] :=
    row.placed (row.cursor.piece .docTypeIdentifier 3) (List.mem_singleton.mpr rfl)
  have signSame : sign.val = row.docTypeSign := by
    simp [sign, Row.placed, Piece.at, Cursor.piece, Row.docTypeSign, Row.cursor_eq, ← shape]
  have nameSame : (((row.cursor.advance 3).skipIndent).remainder .docType).content =
      Text.trimRight ((row.content.drop 3).dropWhile Text.isIndent) := by
    simp [Cursor.remainder, skipIndent_eq, Cursor.advance, Row.cursor_eq]
  have quiet : row.silent? = none := by simp [Row.silent?, ← shape]
  have bare : row.isTagged = false := by simp [Row.isTagged, ← shape]
  have closed : row.mayOpen = false := by simp [Row.mayOpen, bare, ← shape]
  rw [Lexer.docType]
  split
  next empty =>
    refine ⟨.docType sign none, rfl, ⟨starts, signSame, ?_⟩, quiet.symm, bare.symm, closed.symm,
      by simp [Form.tokens]⟩
    rw [nameSame] at empty
    simp [Row.docTypeName?, empty]
  next named =>
    let name : TokenOf [.docType] :=
      row.placed ((row.cursor.advance 3).skipIndent.remainder .docType)
        (List.mem_singleton.mpr rfl)
    refine ⟨.docType sign (some name), rfl, ⟨starts, signSame, ?_⟩, quiet.symm, bare.symm, closed.symm,
      by simp [Form.tokens]⟩
    rw [nameSame] at named
    simp [name, Row.docTypeName?, named, Row.placed, Piece.at, nameSame]

theorem Row.shows_entry (row : Row) {c : Char} {rest : Text} {head : Option Head}
    {matter : Matter} (shape : row.content = c :: rest) (noDocType : c ≠ '!') (loud : c ≠ '-')
    (said : matter.silent? = none) (tagged : head.isSome = (c == '%' || c == '#' || c == '.'))
    (same : (head.isSome || matter.isCode) = (c == '%' || c == '#' || c == '.' || c == '='))
    (spoken : (Form.entry head matter).tokens ≠ []) : row.Shows (.entry head matter) := by
  refine ⟨?_, ?_, ?_, ?_, spoken⟩
  · simp [isDocType, shape, List.isPrefixOf, Ne.symm noDocType]
  · simp [Form.silent?, said, silent?, shape, loud]
  · simp [Form.isTagged, tagged, isTagged, shape]
  · simp [Form.mayOpen, same, mayOpen, isTagged, shape, beq_false_of_ne loud]

theorem Row.shows_text (row : Row) (words : TokenOf [.text]) (noDocType : row.isDocType = false)
    (plain : ∀ c ∈ row.content.head?, c ∉ ['-', '=', '%', '#', '.']) :
    row.Shows (.entry none (.text words)) := by
  cases shape : row.content with
  | nil =>
    refine ⟨noDocType, ?_, ?_, ?_, by simp [Form.tokens, Matter.tokens]⟩
    · simp [Form.silent?, Matter.silent?, silent?, shape]
    · simp [Form.isTagged, isTagged, shape]
    · simp [Form.mayOpen, Matter.isCode, mayOpen, isTagged, shape]
  | cons c rest =>
    have other := plain c (by simp [shape])
    simp only [List.mem_cons, not_or] at other
    refine ⟨noDocType, ?_, ?_, ?_, by simp [Form.tokens, Matter.tokens]⟩
    · simp [Form.silent?, Matter.silent?, silent?, shape, other]
    · simp [Form.isTagged, isTagged, shape, other]
    · simp [Form.mayOpen, Matter.isCode, mayOpen, isTagged, shape, other]

theorem construct_tokens (row : Row) {pieces : List Piece}
    (found : Lexer.construct row.cursor = .ok pieces) :
    ∃ form : Form, row.tokens pieces = form.tokens ∧ row.Shows form := by
  rw [Row.cursor_eq] at found
  unfold Lexer.construct at found
  have tagged {c : Char} {rest : Text} (shape : row.content = c :: rest)
      (sign : c = '%' ∨ c = '#' ∨ c = '.')
      (found : Lexer.tag ⟨row.depth, row.content⟩ = .ok pieces) :
      ∃ form : Form, row.tokens pieces = form.tokens ∧ row.Shows form := by
    obtain ⟨head, matter, same, loud⟩ := tag_tokens row found (by simpa [shape] using sign)
    refine ⟨.entry (some head) matter, by simpa [Form.tokens] using same, ?_⟩
    refine row.shows_entry shape ?_ ?_ loud ?_ ?_ (by simp [Form.tokens, head.tokens_ne_nil]) <;>
      rcases sign with rfl | rfl | rfl <;> simp
  split at found
  case h_1 rest shape =>
    cases found
    rw [← Row.cursor_eq]
    exact docType_tokens row (by simp [Row.isDocType, show row.content = _ from shape])
  case h_2 rest shape =>
    cases found
    exact ⟨.entry none (.comment (row.placed _ (List.mem_singleton.mpr rfl))
      (row.placed _ (List.mem_singleton.mpr rfl))), rfl,
      row.shows_entry shape (by decide) (by decide) rfl rfl rfl
        (by simp [Form.tokens, Matter.tokens])⟩
  case h_3 rest shape =>
    cases found
    exact ⟨.entry none (.code (row.placed _ (List.mem_singleton.mpr rfl))
      (row.placed _ (List.mem_singleton.mpr rfl))), rfl,
      row.shows_entry shape (by decide) (by decide) rfl rfl rfl
        (by simp [Form.tokens, Matter.tokens])⟩
  case h_4 rest shape =>
    cases found
    have shape : row.content = '-' :: rest := shape
    refine ⟨.entry none (.silent (row.placed _ (List.mem_singleton.mpr rfl))
      (row.placed _ (List.mem_singleton.mpr rfl))), rfl, ?_, ?_, ?_, ?_,
      by simp [Form.tokens, Matter.tokens]⟩
    · simp [Row.isDocType, shape, List.isPrefixOf]
    · simp [Form.silent?, Matter.silent?, Row.silent?, shape, Row.placed, Piece.at,
        Cursor.remainder, skipIndent_eq, Cursor.advance]
    · simp [Form.isTagged, Row.isTagged, shape]
    · simp [Form.mayOpen, Matter.isCode, Row.mayOpen, Row.isTagged, shape]
  case h_5 rest shape =>
    cases found
    exact ⟨.entry none (.text (row.placed _ (List.mem_singleton.mpr rfl))), rfl,
      row.shows_entry shape (by decide) (by decide) rfl rfl rfl
        (by simp [Form.tokens, Matter.tokens])⟩
  case h_6 rest shape => exact tagged shape (by simp) found
  case h_7 rest shape => exact tagged shape (by simp) found
  case h_8 rest shape => exact tagged shape (by simp) found
  case h_9 noDocType _ noCode noSilent _ noElement noId noClasses =>
    cases found
    refine ⟨.entry none (.text (row.placed _ (List.mem_singleton.mpr rfl))), rfl,
      row.shows_text _ (Bool.eq_false_iff.mpr fun starts => ?_) fun c first => ?_⟩
    · obtain ⟨rest, shape⟩ := List.isPrefixOf_iff_prefix.mp starts
      exact noDocType rest shape.symm
    · obtain ⟨rest, shape⟩ := List.head?_eq_some_iff.mp first
      intro sign
      simp only [List.mem_cons, List.not_mem_nil, or_false] at sign
      rcases sign with rfl | rfl | rfl | rfl | rfl
      · exact noSilent rest shape
      · exact noCode rest shape
      · exact noElement rest shape
      · exact noId rest shape
      · exact noClasses rest shape

/-- What the lexer makes of a row. Only the first line may be without an indentation. -/
structure Reads (first : Bool) (row : Row) (line : Line) : Prop where
  placed : Lexer.place row.number row.offset first row.text = .ok line.tokens
  depth : line.depth = row.depth
  indented : line.indent.isSome = !(first && row.depth == 0)
  shows : row.Shows line.form

/-- The indentation of a row. -/
def Row.margin (row : Row) : Piece := (Cursor.mk 0 row.text).piece .whiteSpace row.depth

theorem Row.length_margin (row : Row) : row.margin.content.length = row.depth := by
  have bound := (List.takeWhile_prefix (p := Text.isIndent) (l := row.text)).length_le
  simpa [margin, Cursor.piece, depth] using Nat.min_eq_left bound

theorem Row.pieces_text (row : Row) :
    Lexer.pieces row.text = (do
      let found ← Lexer.construct row.cursor
      return row.margin :: found) := rfl

theorem place_tokens {first : Bool} {row : Row} {tokens : List Token}
    (found : Lexer.place row.number row.offset first row.text = .ok tokens) :
    ∃ line : Line, line.tokens = tokens ∧ Reads first row line := by
  have placed := found
  unfold Lexer.place at found
  split at found
  next pieces read =>
    cases found
    rw [Row.pieces_text] at read
    obtain ⟨found, constructed, read⟩ := Outcome.bind_eq_ok.mp read
    cases read
    obtain ⟨form, same, shows⟩ := construct_tokens row constructed
    have empty : row.margin.content = [] ↔ row.depth = 0 := by
      rw [← Row.length_margin, List.length_eq_zero_iff]
    rw [Lexer.shown] at placed ⊢
    by_cases bare : first = true ∧ row.margin.content = []
    next =>
      rw [if_pos bare] at placed ⊢
      have flush := empty.mp bare.2
      have tokens : Line.tokens ⟨none, form⟩ = row.tokens found := same.symm
      exact ⟨⟨none, form⟩, tokens, tokens ▸ placed, flush.symm, by simp [bare.1, flush], shows⟩
    next =>
      rw [if_neg bare] at placed ⊢
      let indent : TokenOf [.whiteSpace] := row.placed row.margin (List.mem_singleton.mpr rfl)
      have tokens : Line.tokens ⟨some indent, form⟩ = row.tokens (row.margin :: found) := by
        rw [Row.tokens_cons, same]
        rfl
      refine ⟨⟨some indent, form⟩, tokens, tokens ▸ placed, row.length_margin, ?_, shows⟩
      rw [empty, not_and] at bare
      cases first with
      | false => rfl
      | true => simpa using bare rfl
  next => cases found

/-- The lines that the lexer makes of rows. -/
inductive ReadsAll : Bool → List Row → List Line → Prop where
  | nil (first : Bool) : ReadsAll first [] []
  | cons {first : Bool} {row : Row} {line : Line} {rows : List Row} {lines : List Line}
      (one : Reads first row line) (others : ReadsAll false rows lines) :
      ReadsAll first (row :: rows) (line :: lines)

theorem lexRows_tokens {first : Bool} {rows : List Row} {tokens : List Token}
    (found : lexRows first rows = .ok tokens) :
    ∃ lines : List Line, tokens = lines.flatMap Line.tokens ∧ ReadsAll first rows lines := by
  induction rows generalizing first tokens with
  | nil =>
    cases found
    exact ⟨[], rfl, .nil first⟩
  | cons row rest ih =>
    obtain ⟨one, placed, found⟩ := Outcome.bind_eq_ok.mp found
    obtain ⟨others, lexed, found⟩ := Outcome.bind_eq_ok.mp found
    cases found
    obtain ⟨line, rfl, reads⟩ := place_tokens placed
    obtain ⟨lines, rfl, readsAll⟩ := ih lexed
    exact ⟨line :: lines, rfl, .cons reads readsAll⟩

theorem lex_tokens {source : Text} {tokens : List Token} (found : Lexer.lex source = .ok tokens) :
    ∃ lines : List Line, tokens = lines.flatMap Line.tokens ∧
      ReadsAll true (rows source) lines :=
  lexRows_tokens (lex_eq source ▸ found)

end Stencil.Markup
