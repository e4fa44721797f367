import Stencil.Proofs.Markup.Tile

/-!
Each part of the lexer cuts its pieces out of the line without a gap that is not blank, and it
leaves alone the boundary that the line may have kept.
-/

set_option autoImplicit false

namespace Stencil.Bracket

theorem shift_eq_ok {count stop : Nat} {outcome : Except Fault Nat}
    (found : shift count outcome = .ok stop) : ∃ inner, outcome = .ok inner ∧ stop = inner + count := by
  cases outcome with
  | error fault => cases found
  | ok inner =>
    cases found
    exact ⟨inner, rfl, rfl⟩

/-- An expression in brackets ends with a brace. -/
theorem closing_brace {depth stop : Nat} {text : Text} (found : closing depth text = .ok stop) :
    ∃ inner rest, text = inner ++ '}' :: rest ∧ stop = inner.length + 1 := by
  have behind {c : Char} {rest : Text} {count : Nat}
      (later : ∃ inner after, rest = inner ++ '}' :: after ∧ count = inner.length + 1) :
      ∃ inner after, c :: rest = inner ++ '}' :: after ∧ count + 1 = inner.length + 1 := by
    obtain ⟨inner, after, rfl, rfl⟩ := later
    exact ⟨c :: inner, after, rfl, rfl⟩
  fun_induction closing depth text generalizing stop with
  | case1 => cases found
  | case2 => cases found
  | case3 depth c rest quote length string ih =>
    obtain ⟨count, closed, rfl⟩ := shift_eq_ok found
    obtain ⟨inner, after, same, rfl⟩ := ih closed
    -- the string goes in front of what comes after it
    have bound := (stringEnd?_le string).2
    refine ⟨c :: rest.take length ++ inner, after, ?_, ?_⟩
    · rw [List.append_assoc, ← same, List.cons_append, List.take_append_drop]
    · simp only [List.length_append, List.length_cons, List.length_take, Nat.min_eq_left bound]
      omega
  | case4 depth rest quote ih =>
    obtain ⟨count, closed, rfl⟩ := shift_eq_ok found
    exact behind (ih closed)
  | case5 rest =>
    cases found
    exact ⟨[], rest, rfl, rfl⟩
  | case6 rest _ _ outer ih =>
    obtain ⟨count, closed, rfl⟩ := shift_eq_ok found
    exact behind (ih closed)
  | case7 depth c rest _ _ _ ih =>
    obtain ⟨count, closed, rfl⟩ := shift_eq_ok found
    exact behind (ih closed)

end Stencil.Bracket

namespace Stencil.Text

/-- Only blanks are trimmed. -/
theorem trimRight_split (text : Text) :
    ∃ tail, text = trimRight text ++ tail ∧ ∀ c ∈ tail, isBlank c = true := by
  refine ⟨(text.reverse.takeWhile isBlank).reverse, ?_, fun c member => ?_⟩
  · rw [trimRight, dropRightWhile, ← List.reverse_append, List.takeWhile_append_dropWhile,
      List.reverse_reverse]
  · exact List.all_eq_true.mp List.all_takeWhile c (List.mem_reverse.mp member)

theorem trimRight_append {text tail : Text} (blank : ∀ c ∈ tail, isBlank c = true) :
    trimRight (text ++ tail) = trimRight text := by
  have dropped : (tail.reverse ++ text.reverse).dropWhile isBlank = text.reverse.dropWhile isBlank :=
    List.dropWhile_append_of_pos fun c member => blank c (List.mem_reverse.mp member)
  rw [trimRight, trimRight, dropRightWhile, dropRightWhile, List.reverse_append, dropped]

end Stencil.Text

namespace Stencil.Markup

open Lexer

variable {ending left : Text} {cursor between after : Cursor} {pieces others : List Piece}

abbrev Fills : Nat → Text → List Piece → Prop :=
  Tiles Piece.column Piece.content fun _ c => Text.isBlank c = true

/-- The pieces cut out between two cursors, neither of which is behind the boundary. -/
def Cuts (ending : Text) (cursor : Cursor) (pieces : List Piece) (after : Cursor) : Prop :=
  ∃ text left, cursor.rest = text ++ (left ++ ending) ∧
    after = ⟨cursor.column + text.length, left ++ ending⟩ ∧ Fills cursor.column text pieces

theorem Cuts.refl (within : cursor.rest = left ++ ending) : Cuts ending cursor [] cursor :=
  ⟨[], left, within, by rw [← within]; rfl, .nil _⟩

theorem Cuts.within (cuts : Cuts ending cursor pieces after) :
    ∃ left, after.rest = left ++ ending := by
  obtain ⟨_, left, _, rfl, _⟩ := cuts
  exact ⟨left, rfl⟩

theorem Cuts.trans (first : Cuts ending cursor pieces between)
    (second : Cuts ending between others after) : Cuts ending cursor (pieces ++ others) after := by
  obtain ⟨text, middle, shape, rfl, fills⟩ := first
  obtain ⟨next, left, behind, rfl, more⟩ := second
  refine ⟨text ++ next, left, ?_, ?_, fills.append more⟩
  · simp only at behind
    rw [shape, behind, List.append_assoc]
  · rw [List.length_append, Nat.add_assoc]

/-! ### Single cuts -/

theorem cuts_piece {word : Text} (shape : cursor.rest = word ++ (left ++ ending))
    (kind : TokenKind) :
    Cuts ending cursor [cursor.piece kind word.length] (cursor.advance word.length) := by
  have content : (cursor.piece kind word.length).content = word := by
    simp [Cursor.piece, shape]
  refine ⟨word, left, shape, by simp [Cursor.advance, shape], ?_⟩
  have single : Fills cursor.column (cursor.piece kind word.length).content
      [cursor.piece kind word.length] := Tiles.single Piece.column Piece.content (cursor.piece kind word.length)
  rwa [content] at single

theorem cuts_blank {word : Text} (shape : cursor.rest = word ++ (left ++ ending))
    (blank : ∀ c ∈ word, Text.isBlank c = true) :
    Cuts ending cursor [] (cursor.advance word.length) :=
  ⟨word, left, shape, by simp [Cursor.advance, shape],
    .gap fun _ c found => blank c (List.mem_of_getElem? found)⟩

/-- A cut behind a character that is no boundary is within the line. -/
theorem within_of_last {word rest : Text} {c : Char} (shape : cursor.rest = word ++ c :: rest)
    (outside : c ∉ ending) (within : cursor.rest = left ++ ending) :
    ∃ more, cursor.rest = (word ++ [c]) ++ (more ++ ending) := by
  rw [shape] at within
  rcases List.append_eq_append_iff.mp within.symm with ⟨more, same, tail⟩ | ⟨more, same, tail⟩
  · -- the boundary would begin before the character
    exact absurd (by simp [tail]) outside
  · cases more with
    | nil =>
      rw [List.nil_append] at tail
      exact absurd (by simp [← tail]) outside
    | cons d more =>
      rw [List.cons_append, List.cons.injEq] at tail
      obtain ⟨rfl, rfl⟩ := tail
      exact ⟨more, by simp [shape]⟩

theorem cuts_to_last {word rest : Text} {c : Char} (shape : cursor.rest = word ++ c :: rest)
    (outside : c ∉ ending) (within : cursor.rest = left ++ ending) (kind : TokenKind) :
    Cuts ending cursor [cursor.piece kind (word.length + 1)] (cursor.advance (word.length + 1)) := by
  obtain ⟨more, same⟩ := within_of_last shape outside within
  simpa using cuts_piece same kind

theorem takeWhile_append_closing {test : Char → Bool} (kept : ∀ c ∈ ending, test c = false) :
    (left ++ ending).takeWhile test = left.takeWhile test := by
  have none : ending.takeWhile test = [] := by
    cases ending with
    | nil => rfl
    | cons c rest => rw [List.takeWhile_cons, kept c (by simp)]; rfl
  rw [List.takeWhile_append, none, List.append_nil]
  split
  next all => exact (List.takeWhile_prefix test |>.eq_of_length all).symm
  next => rfl

theorem shape_while {test : Char → Bool} (kept : ∀ c ∈ ending, test c = false)
    (within : cursor.rest = left ++ ending) :
    cursor.rest = cursor.rest.takeWhile test ++ (left.dropWhile test ++ ending) := by
  rw [within, takeWhile_append_closing kept, ← List.append_assoc, List.takeWhile_append_dropWhile]

theorem cuts_while {test : Char → Bool} (kept : ∀ c ∈ ending, test c = false)
    (within : cursor.rest = left ++ ending) (kind : TokenKind) :
    Cuts ending cursor [cursor.piece kind (cursor.rest.takeWhile test).length]
      (cursor.advance (cursor.rest.takeWhile test).length) :=
  cuts_piece (shape_while kept within) kind

theorem cuts_skipIndent (closes : Closes ending) (within : cursor.rest = left ++ ending) :
    Cuts ending cursor [] cursor.skipIndent := by
  have kept : ∀ c ∈ ending, Text.isIndent c = false := fun c member => (closes.blank member).2.1
  refine cuts_blank (shape_while kept within) fun c member => ?_
  exact Text.isBlank_of_isIndent (List.all_eq_true.mp List.all_takeWhile c member)

theorem content_remainder (closes : Closes ending) (within : cursor.rest = left ++ ending)
    (kind : TokenKind) : (cursor.remainder kind).content = Text.trimRight left := by
  rw [Cursor.remainder, within, Text.trimRight_append fun c member => (closes.blank member).1]

/-- The rest of a line leaves only blanks behind it. -/
theorem fills_remainder (closes : Closes ending) (within : cursor.rest = left ++ ending)
    (kind : TokenKind) : Fills cursor.column left [cursor.remainder kind] := by
  obtain ⟨tail, same, blank⟩ := Text.trimRight_split left
  have content := content_remainder closes within kind
  have word : Fills cursor.column (cursor.remainder kind).content [cursor.remainder kind] :=
    Tiles.single Piece.column Piece.content (cursor.remainder kind)
  rw [content] at word
  have blanks : Fills (cursor.column + (Text.trimRight left).length) tail [] :=
    .gap fun _ c found => blank c (List.mem_of_getElem? found)
  have all := word.append blanks
  rwa [← same] at all

/-! ### Parts of a tag -/

theorem cuts_value (closes : Closes ending) (within : cursor.rest = left ++ ending) {piece : Piece}
    (found : value cursor = .ok (piece, after)) : Cuts ending cursor [piece] after := by
  unfold value at found
  split at found
  next rest shape =>
    split at found
    next stop read =>
      cases found
      rw [shape] at read
      obtain ⟨count, closed, rfl⟩ := Bracket.shift_eq_ok read
      obtain ⟨inner, behind, same, rfl⟩ := Bracket.closing_brace closed
      have brace : cursor.rest = ('{' :: inner) ++ '}' :: behind := by
        rw [shape, List.cons_append, ← same]
        rfl
      exact cuts_to_last brace (closes.not_mem (by decide)) within _
    next => cases found
  next =>
    simp only at found
    split at found
    next => cases found
    next =>
      cases found
      exact cuts_while (fun c member => (closes.blank member).2.2) within _

theorem cuts_attributeName (closes : Closes ending) (within : cursor.rest = left ++ ending)
    {piece : Piece} (found : attributeName? cursor = .ok (some (piece, after))) :
    Cuts ending cursor [piece] after ∧ after.rest.head? = some '=' := by
  unfold attributeName? at found
  split at found
  next =>
    obtain ⟨⟨name, behind⟩, read, found⟩ := Outcome.bind_eq_ok.mp found
    simp only [pure, Except.pure, Except.ok.injEq] at found
    split at found
    next equals =>
      cases found
      exact ⟨cuts_value closes within read, equals⟩
    next => cases found
  next =>
    simp only [Except.ok.injEq] at found
    split at found
    next named =>
      cases found
      exact ⟨cuts_while (fun c member => (closes.blank member).2.2) within _, named.2⟩
    next => cases found

theorem cuts_attributeValue (closes : Closes ending) (within : cursor.rest = left ++ ending)
    {piece : Piece} (found : attributeValue cursor = .ok (piece, after)) :
    Cuts ending cursor [piece] after := by
  unfold attributeValue at found
  split at found
  next rest shape =>
    split at found
    next stop read =>
      cases found
      obtain ⟨body, behind, rfl, rfl, _⟩ := Text.isInside_of_stringEnd? read
      have quoted : cursor.rest = ('"' :: body) ++ '"' :: behind := shape
      exact cuts_to_last quoted (closes.not_mem (by decide)) within _
    next => cases found
  next => exact cuts_value closes within found
  next =>
    simp only at found
    split at found
    next => cases found
    next =>
      cases found
      refine cuts_while (fun c member => ?_) within _
      rw [(closes.blank member).1]
      rfl

/-- A sign of one character. -/
theorem cuts_mark {mark : Char} (closes : Closes ending) (within : cursor.rest = left ++ ending)
    (next : cursor.rest.head? = some mark) (inside : Text.isBoundary mark = false)
    (kind : TokenKind) : Cuts ending cursor [cursor.piece kind 1] (cursor.advance 1) := by
  obtain ⟨rest, shape⟩ := List.head?_eq_some_iff.mp next
  have shape : cursor.rest = [] ++ mark :: rest := shape
  exact cuts_to_last shape (closes.not_mem inside) within kind

theorem cuts_attribute (closes : Closes ending) (within : cursor.rest = left ++ ending)
    (found : attribute? cursor = .ok (some (pieces, after))) : Cuts ending cursor pieces after := by
  obtain ⟨name?, named, found⟩ := Outcome.bind_eq_ok.mp found
  cases name? with
  | none => cases found
  | some pair =>
    obtain ⟨name, connector⟩ := pair
    obtain ⟨⟨value, behind⟩, valued, found⟩ := Outcome.bind_eq_ok.mp found
    cases found
    have blanks := cuts_skipIndent closes within
    obtain ⟨_, start⟩ := blanks.within
    obtain ⟨first, equals⟩ := cuts_attributeName closes start named
    obtain ⟨_, sign⟩ := first.within
    have second := cuts_mark closes sign equals (by decide) .attributeConnector
    obtain ⟨_, rest⟩ := second.within
    have third := cuts_attributeValue closes rest valued
    exact ((blanks.trans first).trans second).trans third

theorem cuts_attributes (closes : Closes ending) (within : cursor.rest = left ++ ending)
    (found : attributes cursor = .ok (pieces, after)) : Cuts ending cursor pieces after := by
  induction size : cursor.rest.length using Nat.strongRecOn generalizing cursor left pieces with
  | ind size ih =>
    rw [attributes] at found
    obtain ⟨first?, one, found⟩ := Outcome.bind_eq_ok.mp found
    cases first? with
    | none =>
      cases found
      exact .refl within
    | some pair =>
      obtain ⟨first, between⟩ := pair
      have here := cuts_attribute closes within one
      simp only at found
      split at found
      next shorter =>
        obtain ⟨⟨others, last⟩, more, found⟩ := Outcome.bind_eq_ok.mp found
        cases found
        obtain ⟨_, behind⟩ := here.within
        exact here.trans (ih _ (size ▸ shorter) behind more rfl)
      next =>
        cases found
        exact here

theorem cuts_sign {mark : Char} {kind : TokenKind} (closes : Closes ending)
    (within : cursor.rest = left ++ ending) (inside : Text.isBoundary mark = false)
    (found : sign mark kind cursor = .ok (pieces, after)) : Cuts ending cursor pieces after := by
  unfold sign at found
  split at found
  next marked =>
    obtain ⟨⟨name, behind⟩, valued, found⟩ := Outcome.bind_eq_ok.mp found
    cases found
    have first := cuts_mark closes within marked inside kind
    obtain ⟨_, rest⟩ := first.within
    exact first.trans (cuts_value closes rest valued)
  next =>
    cases found
    exact .refl within

/-! ### Contents -/

/-- The pieces with which a line ends. -/
def Finishes (ending : Text) (cursor : Cursor) (pieces : List Piece) : Prop :=
  ∃ left, cursor.rest = left ++ ending ∧ Fills cursor.column left pieces

theorem Cuts.finish (cuts : Cuts ending cursor pieces between)
    (rest : Finishes ending between others) : Finishes ending cursor (pieces ++ others) := by
  obtain ⟨text, left, shape, rfl, fills⟩ := cuts
  obtain ⟨last, same, more⟩ := rest
  refine ⟨text ++ last, ?_, fills.append more⟩
  simp only at same
  rw [shape, same, List.append_assoc]

theorem finishes_remainder (closes : Closes ending) (within : cursor.rest = left ++ ending)
    (kind : TokenKind) : Finishes ending cursor [cursor.remainder kind] :=
  ⟨left, within, fills_remainder closes within kind⟩

theorem finishes_signAndRest {mark : Char} (closes : Closes ending)
    (within : cursor.rest = left ++ ending) (next : cursor.rest.head? = some mark)
    (inside : Text.isBoundary mark = false) (identifier kind : TokenKind) :
    Finishes ending cursor (signAndRest identifier kind cursor) := by
  have sign := cuts_mark closes within next inside identifier
  obtain ⟨_, behind⟩ := sign.within
  have blanks := cuts_skipIndent closes behind
  obtain ⟨_, rest⟩ := blanks.within
  exact (sign.trans blanks).finish (finishes_remainder closes rest kind)

theorem finishes_inlineContent (closes : Closes ending) (within : cursor.rest = left ++ ending)
    (found : inlineContent cursor = .ok pieces) : Finishes ending cursor pieces := by
  have blanks := cuts_skipIndent closes within
  obtain ⟨text, start⟩ := blanks.within
  unfold inlineContent at found
  simp only at found
  split at found
  next empty =>
    cases found
    rw [empty] at start
    have nothing : text = [] ∧ ending = [] := List.append_eq_nil_iff.mp start.symm
    exact blanks.finish ⟨[], by simp [empty, nothing.2], .nil _⟩
  next rest shape =>
    cases found
    have next : cursor.skipIndent.rest.head? = some '=' := by simp [shape]
    exact blanks.finish (finishes_signAndRest closes start next (by decide) _ _)
  next =>
    split at found
    next => cases found
    next =>
      cases found
      exact blanks.finish (finishes_remainder closes start _)

theorem finishes_tag (closes : Closes ending) (within : cursor.rest = left ++ ending)
    (found : tag cursor = .ok pieces) : Finishes ending cursor pieces := by
  obtain ⟨⟨element, one⟩, first, found⟩ := Outcome.bind_eq_ok.mp found
  obtain ⟨⟨id, two⟩, second, found⟩ := Outcome.bind_eq_ok.mp found
  obtain ⟨⟨classes, three⟩, third, found⟩ := Outcome.bind_eq_ok.mp found
  obtain ⟨⟨pairs, four⟩, fourth, found⟩ := Outcome.bind_eq_ok.mp found
  obtain ⟨content, last, found⟩ := Outcome.bind_eq_ok.mp found
  cases found
  have named := cuts_sign closes within (by decide) first
  obtain ⟨_, behind⟩ := named.within
  have marked := cuts_sign closes behind (by decide) second
  obtain ⟨_, behind⟩ := marked.within
  have sorted := cuts_sign closes behind (by decide) third
  obtain ⟨_, behind⟩ := sorted.within
  have paired := cuts_attributes closes behind fourth
  obtain ⟨_, behind⟩ := paired.within
  exact (((named.trans marked).trans sorted).trans paired).finish
    (finishes_inlineContent closes behind last)

theorem finishes_docType {rest : Text} (closes : Closes ending)
    (within : cursor.rest = left ++ ending) (shape : cursor.rest = '!' :: '!' :: '!' :: rest) :
    Finishes ending cursor (docType cursor) := by
  have shape : cursor.rest = ['!', '!'] ++ '!' :: rest := shape
  have sign : Cuts ending cursor [cursor.piece .docTypeIdentifier 3] (cursor.advance 3) :=
    cuts_to_last shape (closes.not_mem (by decide)) within _
  obtain ⟨_, behind⟩ := sign.within
  have blanks := cuts_skipIndent closes behind
  obtain ⟨text, start⟩ := blanks.within
  have named := fills_remainder closes start .docType
  rw [docType]
  split
  next empty =>
    -- a name without a character fills nothing
    have nothing := List.isEmpty_iff.mp empty
    rw [content_remainder closes start] at nothing
    obtain ⟨tail, same, blank⟩ := Text.trimRight_split text
    rw [nothing, List.nil_append] at same
    exact (sign.trans blanks).finish ⟨text, start,
      .gap fun _ c found => blank c (same ▸ List.mem_of_getElem? found)⟩
  next => exact (sign.trans blanks).finish ⟨text, start, named⟩

/-- What may be left out of a line: blanks, and the backslash before a text. -/
def Spares (depth : Nat) (pieces : List Piece) (column : Nat) (c : Char) : Prop :=
  Text.isBlank c = true ∨
    c = '\\' ∧ column = depth ∧ ∃ piece ∈ pieces, piece.kind = .text ∧ piece.column = column + 1

theorem construct_fills (closes : Closes ending) (within : cursor.rest = left ++ ending)
    (found : construct cursor = .ok pieces) :
    ∃ text, cursor.rest = text ++ ending ∧
      Tiles Piece.column Piece.content (Spares cursor.column pieces) cursor.column text pieces := by
  have plain (finishes : Finishes ending cursor pieces) : ∃ text, cursor.rest = text ++ ending ∧
      Tiles Piece.column Piece.content (Spares cursor.column pieces) cursor.column text pieces := by
    obtain ⟨text, same, fills⟩ := finishes
    exact ⟨text, same, fills.widen fun _ _ _ blank => .inl blank⟩
  unfold construct at found
  split at found
  case h_1 rest shape =>
    cases found
    exact plain (finishes_docType closes within shape)
  case h_2 rest shape =>
    cases found
    have next : cursor.rest.head? = some '/' := by simp [shape]
    exact plain (finishes_signAndRest closes within next (by decide) _ _)
  case h_3 rest shape =>
    cases found
    have next : cursor.rest.head? = some '=' := by simp [shape]
    exact plain (finishes_signAndRest closes within next (by decide) _ _)
  case h_4 rest shape =>
    cases found
    have next : cursor.rest.head? = some '-' := by simp [shape]
    exact plain (finishes_signAndRest closes within next (by decide) _ _)
  case h_5 rest shape =>
    cases found
    have next : cursor.rest.head? = some '\\' := by simp [shape]
    have sign := cuts_mark closes within next (by decide) .text
    obtain ⟨text, behind⟩ := sign.within
    have fills := fills_remainder closes behind .text
    refine ⟨'\\' :: text, ?_, .skip (.inr ⟨rfl, rfl, (cursor.advance 1).remainder .text,
      by simp, rfl, rfl⟩) (fills.widen fun _ _ _ blank => .inl blank)⟩
    rw [shape, List.cons_append, ← behind]
    simp [Cursor.advance, shape]
  case h_6 => exact plain (finishes_tag closes within found)
  case h_7 => exact plain (finishes_tag closes within found)
  case h_8 => exact plain (finishes_tag closes within found)
  case h_9 =>
    cases found
    exact plain (finishes_remainder closes within _)

end Stencil.Markup
