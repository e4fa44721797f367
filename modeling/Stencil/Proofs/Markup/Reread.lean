import Mathlib.Data.List.Forall2
import Stencil.Proofs.Layout.Source
import Stencil.Proofs.Markup.Phrase
import Stencil.Proofs.Markup.Tiling
import Stencil.Proofs.Text.Endings

/-!
Whatever is lexed consists of phrases. Hence a source that has only the four common blanks can be
written anew from its tokens, and what is written gives the same tokens in other places.
-/

set_option autoImplicit false

namespace Stencil

namespace Text

/-- Text whose only blanks are those that indent. -/
def Tame (text : Text) : Prop := ∀ c ∈ text, isBlank c = true → isIndent c = true

variable {text other : Text}

theorem tame_append : Tame (text ++ other) ↔ Tame text ∧ Tame other := List.forall_mem_append

theorem tame_cons {c : Char} :
    Tame (c :: text) ↔ (isBlank c = true → isIndent c = true) ∧ Tame text := List.forall_mem_cons

theorem Tame.of_mem (tame : Tame text) (inside : ∀ c ∈ other, c ∈ text) : Tame other :=
  fun c member => tame c (inside c member)

theorem Tame.inside (tame : Tame text) : ∀ c ∈ text, isBoundary c = false := by
  intro c member
  refine eq_false_of_ne_true fun boundary => ?_
  have closes : Markup.Closes [c] := List.forall_mem_singleton.mpr boundary
  have blank := closes.blank (List.mem_singleton_self c)
  rw [tame c member blank.1] at blank
  cases blank.2.1

end Text

namespace Lexer

open Text (Snug Tame isIndent isBlank)
open Markup (Cuts Closes)

variable {cursor after connector : Cursor}

/-! ### What the parts of a line say -/

theorem word_value {piece : Piece} (found : value cursor = .ok (piece, after)) :
    Word piece.said := by
  by_cases brace : cursor.rest.head? = some '{'
  next =>
    obtain ⟨rest, shape⟩ := List.head?_eq_some_iff.mp brace
    rw [value_bracket shape, shape] at found
    split at found
    next stop read =>
      cases found
      obtain ⟨count, closed, rfl⟩ := Bracket.shift_eq_ok read
      obtain ⟨inner, behind, same, rfl⟩ := Bracket.closing_brace closed
      have whole : (rest.take (inner.length + 1)).length = inner.length + 1 := by
        have same : rest = inner ++ '}' :: behind := same
        simp [same]
      have again := Bracket.closing_take closed []
      rw [List.append_nil] at again
      have legal : Word (.bracketExpression, '{' :: rest.take (inner.length + 1)) :=
        .bracket (whole.symm ▸ again)
      simpa [Piece.said, Cursor.piece, shape] using legal
    next => cases found
  next =>
    rw [value_name brace] at found
    split at found
    next => cases found
    next present =>
      cases found
      have taken : cursor.rest.take (nameLength cursor.rest) = cursor.rest.takeWhile isNameChar :=
        List.prefix_iff_eq_take.mp (List.takeWhile_prefix _) |>.symm
      have named : cursor.rest.takeWhile isNameChar ≠ [] := by
        rintro empty
        exact present (by rw [nameLength, empty, List.length_nil])
      rw [Piece.said, Cursor.piece, taken]
      exact .name named fun c member => List.all_eq_true.mp List.all_takeWhile c member

theorem word_attributeName {piece : Piece}
    (found : attributeName? cursor = .ok (some (piece, connector))) : Word piece.said := by
  by_cases brace : cursor.rest.head? = some '{'
  next =>
    obtain ⟨rest, shape⟩ := List.head?_eq_some_iff.mp brace
    rw [attributeName?_bracket shape] at found
    obtain ⟨⟨name, behind⟩, read, found⟩ := Outcome.bind_eq_ok.mp found
    simp only [pure, Except.pure, Except.ok.injEq] at found
    split at found
    next =>
      cases found
      exact word_value read
    next => cases found
  next =>
    rw [attributeName?_name brace] at found
    simp only [Except.ok.injEq] at found
    split at found
    next named =>
      cases found
      have read := value_name brace
      rw [if_neg named.1] at read
      exact word_value read
    next => cases found

/-- An expression in brackets is a value as well. -/
theorem Word.value {word : Said} (legal : Word word) (bracket : word.1 = .bracketExpression) :
    Value word := by
  cases legal with
  | bracket closed => exact .bracket closed
  | name => cases bracket

theorem value_attributeValue {piece : Piece} (found : attributeValue cursor = .ok (piece, after)) :
    Value piece.said := by
  by_cases quote : cursor.rest.head? = some '"'
  next =>
    obtain ⟨rest, shape⟩ := List.head?_eq_some_iff.mp quote
    rw [attributeValue_quoted shape] at found
    split at found
    next stop read =>
      cases found
      obtain ⟨body, behind, rfl, rfl, inside⟩ := Text.isInside_of_stringEnd? read
      have legal : Value (.quotedString, '"' :: (body ++ ['"'])) := .quoted inside
      simpa [Piece.said, Cursor.piece, shape, List.take_append, List.take_of_length_le] using legal
    next => cases found
  next =>
    by_cases brace : cursor.rest.head? = some '{'
    next =>
      obtain ⟨rest, shape⟩ := List.head?_eq_some_iff.mp brace
      rw [attributeValue_bracket shape] at found
      refine (word_value found).value ?_
      rw [value_bracket shape] at found
      split at found
      next =>
        cases found
        rfl
      next => cases found
    next =>
      rw [attributeValue_plain quote brace] at found
      split at found
      next => cases found
      next present =>
        cases found
        have taken : cursor.rest.take (cursor.rest.takeWhile (!isBlank ·)).length =
            cursor.rest.takeWhile (!isBlank ·) :=
          List.prefix_iff_eq_take.mp (List.takeWhile_prefix _) |>.symm
        have first {c : Char} (head : (cursor.rest.takeWhile (!isBlank ·)).head? = some c) :
            cursor.rest.head? = some c := by
          obtain ⟨more, same⟩ := List.takeWhile_prefix (p := (!isBlank ·)) (l := cursor.rest)
          rw [← same, head?_append_of_ne_nil (by rintro empty; simp [empty] at head), head]
        have spoken : cursor.rest.takeWhile (!isBlank ·) ≠ [] := by
          rintro empty
          exact present (by rw [empty, List.length_nil])
        rw [Piece.said, Cursor.piece, taken]
        refine .run spoken (fun c member => ?_) (fun head => quote (first head))
          (fun head => brace (first head))
        simpa using List.all_eq_true.mp List.all_takeWhile c member

theorem said_attribute {found : List Piece} (read : attribute? cursor = .ok (some (found, after))) :
    ∃ name one, Word name ∧ Value one ∧
      found.map Piece.said = [name, (.attributeConnector, ['=']), one] := by
  obtain ⟨name?, named, read⟩ := Outcome.bind_eq_ok.mp read
  cases name? with
  | none => cases read
  | some pair =>
    obtain ⟨name, connector⟩ := pair
    obtain ⟨⟨one, behind⟩, valued, read⟩ := Outcome.bind_eq_ok.mp read
    cases read
    obtain ⟨rest, shape⟩ := List.head?_eq_some_iff.mp (attributeName?_equals named)
    refine ⟨name.said, one.said, word_attributeName named, value_attributeValue valued, ?_⟩
    simp [Piece.said, Cursor.piece, shape]

/-- What is behind the pieces is the end of what they were cut from. -/
theorem suffix_cuts {found : List Piece} (cuts : Cuts [] cursor found after) :
    after.rest <:+ cursor.rest := by
  obtain ⟨text, left, shape, rfl, _⟩ := cuts
  exact ⟨text, shape.symm⟩

theorem closes_nil : Closes [] := List.forall_mem_nil _

theorem shorter_attribute {found : List Piece}
    (read : attribute? cursor = .ok (some (found, after))) :
    after.rest.length < cursor.rest.length := by
  obtain ⟨name?, named, read⟩ := Outcome.bind_eq_ok.mp read
  cases name? with
  | none => cases read
  | some pair =>
    obtain ⟨name, connector⟩ := pair
    obtain ⟨⟨one, behind⟩, valued, read⟩ := Outcome.bind_eq_ok.mp read
    cases read
    have whole (cursor : Cursor) : cursor.rest = cursor.rest ++ [] := (List.append_nil _).symm
    have blanks := suffix_cuts (Markup.cuts_skipIndent closes_nil (whole cursor))
    have front := suffix_cuts (Markup.cuts_attributeName closes_nil (whole _) named).1
    have back := suffix_cuts (Markup.cuts_attributeValue closes_nil (whole _) valued)
    -- the connector is between the name and the value
    obtain ⟨rest, shape⟩ := List.head?_eq_some_iff.mp (attributeName?_equals named)
    have first := blanks.length_le
    have second := front.length_le
    have third := back.length_le
    simp only [Cursor.advance, shape, List.length_cons, List.drop_succ_cons, List.drop_zero]
      at second third
    omega

theorem said_attributes {found : List Piece} (read : attributes cursor = .ok (found, after)) :
    Pairs (found.map Piece.said) ∧ attribute? after = .ok none := by
  induction size : cursor.rest.length using Nat.strongRecOn generalizing cursor found with
  | ind size ih =>
    rw [attributes] at read
    obtain ⟨first?, one, read⟩ := Outcome.bind_eq_ok.mp read
    cases first? with
    | none =>
      cases read
      exact ⟨.nil, one⟩
    | some pair =>
      obtain ⟨first, between⟩ := pair
      have shorter := shorter_attribute one
      simp only [shorter, if_true] at read
      obtain ⟨⟨others, last⟩, more, read⟩ := Outcome.bind_eq_ok.mp read
      cases read
      obtain ⟨name, value, named, valued, same⟩ := said_attribute one
      obtain ⟨paired, nothing⟩ := ih _ (size ▸ shorter) more rfl
      rw [List.map_append, same]
      exact ⟨.cons named valued paired, nothing⟩

theorem said_sign {mark : Char} {kind : TokenKind} {found : List Piece}
    (read : sign mark kind cursor = .ok (found, after)) :
    Marked mark kind (found.map Piece.said) ∧
      (cursor.rest.head? = some mark → found ≠ []) ∧
      (cursor.rest.head? ≠ some mark → after = cursor) := by
  unfold sign at read
  by_cases comes : cursor.rest.head? = some mark
  next =>
    rw [if_pos comes] at read
    obtain ⟨⟨word, last⟩, valued, read⟩ := Outcome.bind_eq_ok.mp read
    cases read
    obtain ⟨rest, shape⟩ := List.head?_eq_some_iff.mp comes
    have said : [cursor.piece kind 1, word].map Piece.said = [(kind, [mark]), word.said] := by
      simp [Piece.said, Cursor.piece, shape]
    rw [said]
    exact ⟨.present (word_value valued), by simp, fun other => absurd comes other⟩
  next =>
    rw [if_neg comes] at read
    cases read
    exact ⟨.absent, fun same => absurd same comes, fun _ => rfl⟩

/-! ### What lines say -/

/-- Whether an attribute begins does not depend on where the text stands. -/
theorem attributeName?_none {text : Text} {column : Nat}
    (nothing : attributeName? ⟨column, text⟩ = .ok none) (other : Nat) :
    attributeName? ⟨other, text⟩ = .ok none := by
  by_cases brace : text.head? = some '{'
  next =>
    obtain ⟨rest, shape⟩ := List.head?_eq_some_iff.mp brace
    rw [@attributeName?_bracket ⟨column, text⟩ rest shape] at nothing
    rw [@attributeName?_bracket ⟨other, text⟩ rest shape]
    rw [@value_bracket ⟨column, text⟩ rest shape] at nothing
    rw [@value_bracket ⟨other, text⟩ rest shape]
    cases read : Bracket.stop text with
    | error fault => simp [read] at nothing
    | ok stop => simpa [read, Cursor.advance] using nothing
  next =>
    rw [@attributeName?_name ⟨column, text⟩ brace] at nothing
    rw [@attributeName?_name ⟨other, text⟩ brace]
    simpa [Cursor.advance] using nothing

/-- Blanks behind a text do not keep an attribute from beginning. -/
theorem attributeName?_untrailed {text tail : Text} (indents : Text.Indents tail) {column : Nat}
    (nothing : attributeName? ⟨column, text ++ tail⟩ = .ok none) :
    attributeName? ⟨column, text⟩ = .ok none := by
  have whole := attributeName?_trailed indents.blanks ⟨column, text⟩
  rw [Cursor.trailed, nothing] at whole
  cases read : attributeName? ⟨column, text⟩ with
  | error fault => simp [read, Except.map] at whole
  | ok found =>
    cases found with
    | none => rfl
    | some pair => simp [read, Except.map] at whole

theorem begins_skipIndent (cursor : Cursor) :
    ∀ c ∈ cursor.skipIndent.rest.head?, isIndent c = false := by
  rw [Markup.skipIndent_eq]
  exact Text.head?_dropWhile_not isIndent cursor.rest

theorem snug_skipIndent (cursor : Cursor) : Snug (Text.trimRight cursor.skipIndent.rest) := by
  rw [Markup.skipIndent_eq]
  exact Text.snug_remainder cursor.rest

theorem said_signAndRest {mark : Char} {rest : Text} (shape : cursor.rest = mark :: rest)
    (identifier kind : TokenKind) :
    ∃ text, Snug text ∧
      (signAndRest identifier kind cursor).map Piece.said =
        [(identifier, [mark]), (kind, text)] := by
  refine ⟨_, snug_skipIndent (cursor.advance 1), ?_⟩
  simp [signAndRest, Piece.said, Cursor.piece, Cursor.remainder, shape]

/-- A text that begins without a blank keeps its first character when it is trimmed. -/
theorem trimRight_cons {c : Char} (spoken : isBlank c = false) (rest : Text) :
    Text.trimRight (c :: rest) = c :: Text.trimRight rest := by
  rw [Text.trimRight, Text.trimRight, Text.dropRightWhile, Text.dropRightWhile, List.reverse_cons,
    List.dropWhile_append]
  split
  next empty =>
    have nothing : rest.reverse.dropWhile isBlank = [] := List.isEmpty_iff.mp empty
    simp [nothing, spoken]
  next => simp

theorem said_inlineContent {found : List Piece} (tame : Tame cursor.rest)
    (nothing : attribute? cursor = .ok none) (read : inlineContent cursor = .ok found) :
    Inline (found.map Piece.said) := by
  have unnamed : attributeName? cursor.skipIndent = .ok none := by
    obtain ⟨name?, named, read⟩ := Outcome.bind_eq_ok.mp nothing
    cases name? with
    | none => exact named
    | some pair =>
      obtain ⟨_, _, read⟩ := Outcome.bind_eq_ok.mp read
      cases read
  have inside : Tame cursor.skipIndent.rest := tame.of_mem fun _ => (List.drop_sublist ..).mem
  cases shape : cursor.skipIndent.rest with
  | nil =>
    simp only [inlineContent, shape] at read
    cases read
    exact .absent
  | cons c rest =>
    by_cases code : c = '='
    next =>
      subst code
      rw [inlineContent_code shape] at read
      cases read
      obtain ⟨text, snug, same⟩ := said_signAndRest shape .codeIdentifier .expression
      rw [same]
      exact .code snug
    next =>
      rw [inlineContent_text shape code] at read
      split at read
      next => cases read
      next =>
        cases read
        have spoken : isBlank c = false := by
          refine eq_false_of_ne_true fun blank => ?_
          have indent := (Text.tame_cons.mp (shape ▸ inside)).1 blank
          rw [begins_skipIndent cursor c (by simp [shape])] at indent
          cases indent
        have snug := snug_skipIndent cursor
        have same : Text.trimRight cursor.skipIndent.rest = c :: Text.trimRight rest := by
          rw [shape, trimRight_cons spoken]
        obtain ⟨tail, split, blank⟩ := Text.trimRight_split cursor.skipIndent.rest
        have indents : Text.Indents tail := fun c member =>
          inside c (split ▸ List.mem_append_right _ member) (blank c member)
        have trimmed : attributeName? ⟨cursor.skipIndent.column, c :: Text.trimRight rest⟩ =
            .ok none := by
          refine attributeName?_untrailed indents ?_
          rw [← same, ← split]
          exact unnamed
        simp only [List.map_cons, List.map_nil, Piece.said, Cursor.remainder, same]
        exact .text (same ▸ snug) code fun column => attributeName?_none trimmed column

theorem said_tag {found : List Piece} (tame : Tame cursor.rest) {mark : Char}
    (sign : mark ∈ tagMarks) (comes : cursor.rest.head? = some mark)
    (read : tag cursor = .ok found) :
    Phrase (found.map Piece.said) := by
  obtain ⟨⟨element, one⟩, first, read⟩ := Outcome.bind_eq_ok.mp read
  obtain ⟨⟨id, two⟩, second, read⟩ := Outcome.bind_eq_ok.mp read
  obtain ⟨⟨classes, three⟩, third, read⟩ := Outcome.bind_eq_ok.mp read
  obtain ⟨⟨pairs, four⟩, fourth, read⟩ := Outcome.bind_eq_ok.mp read
  obtain ⟨content, last, read⟩ := Outcome.bind_eq_ok.mp read
  cases read
  have whole (cursor : Cursor) : cursor.rest = cursor.rest ++ [] := (List.append_nil _).symm
  have behind : four.rest <:+ cursor.rest :=
    (suffix_cuts (Markup.cuts_attributes closes_nil (whole _) fourth)).trans <|
      (suffix_cuts (Markup.cuts_sign closes_nil (whole _) (by decide) third)).trans <|
        (suffix_cuts (Markup.cuts_sign closes_nil (whole _) (by decide) second)).trans <|
          suffix_cuts (Markup.cuts_sign closes_nil (whole _) (by decide) first)
  obtain ⟨named, hasElement, noElement⟩ := said_sign first
  obtain ⟨marked, hasId, noId⟩ := said_sign second
  obtain ⟨sorted, hasClasses, _⟩ := said_sign third
  obtain ⟨paired, nothing⟩ := said_attributes fourth
  have inline := said_inlineContent (tame.of_mem fun _ => behind.mem) nothing last
  have present : element ++ id ++ classes ≠ [] := by
    simp only [tagMarks, List.mem_cons, List.not_mem_nil, or_false] at sign
    rcases sign with rfl | rfl | rfl
    · simp [hasElement comes]
    · rw [noElement (by simp [comes])] at hasId
      simp [hasId comes]
    · have same := noElement (by simp [comes])
      rw [noId (by simp [same, comes]), same] at hasClasses
      simp [hasClasses comes]
  simp only [List.map_append]
  exact .tag named marked sorted (by simpa using present) paired inline

theorem said_docType {rest : Text} (shape : cursor.rest = '!' :: '!' :: '!' :: rest) :
    Phrase ((docType cursor).map Piece.said) := by
  have sign : (cursor.piece .docTypeIdentifier 3).said = (.docTypeIdentifier, "!!!".toList) := by
    simp [Piece.said, Cursor.piece, shape]
  rw [docType, List.map_cons, sign]
  split
  next => exact .docType
  next named => exact .named (by simpa using named) (snug_skipIndent _)

/-- What the lexer takes a line for is a phrase. -/
theorem said_construct {found : List Piece} (tame : Tame cursor.rest)
    (read : construct cursor = .ok found) : Phrase (found.map Piece.said) := by
  unfold construct at read
  split at read
  case h_1 rest shape =>
    cases read
    exact said_docType shape
  case h_2 rest shape =>
    cases read
    obtain ⟨text, snug, same⟩ := said_signAndRest shape .commentIdentifier .comment
    exact same ▸ .comment snug
  case h_3 rest shape =>
    cases read
    obtain ⟨text, snug, same⟩ := said_signAndRest shape .codeIdentifier .expression
    exact same ▸ .code snug
  case h_4 rest shape =>
    cases read
    obtain ⟨text, snug, same⟩ := said_signAndRest shape .silentCodeIdentifier .expression
    exact same ▸ .silent snug
  case h_5 =>
    cases read
    exact .text (Text.trimRight_trimRight _)
  case h_6 rest shape =>
    have sign : '%' ∈ tagMarks := by decide
    exact said_tag tame sign (by simp [shape]) read
  case h_7 rest shape =>
    have sign : '#' ∈ tagMarks := by decide
    exact said_tag tame sign (by simp [shape]) read
  case h_8 rest shape =>
    have sign : '.' ∈ tagMarks := by decide
    exact said_tag tame sign (by simp [shape]) read
  case h_9 =>
    cases read
    exact .text (Text.trimRight_trimRight _)

/-! ### Lines that are written anew -/

/-- What a line says, its indentation first. -/
theorem said_pieces {text : Text} {found : List Piece} (tame : Tame text)
    (read : pieces text = .ok found) :
    ∃ margin said, Text.Indents margin ∧ Phrase said ∧
      found.map Piece.said = (.whiteSpace, margin) :: said := by
  obtain ⟨others, built, read⟩ := Outcome.bind_eq_ok.mp read
  cases read
  have inside : Tame (Cursor.mk 0 text).skipIndent.rest :=
    tame.of_mem fun _ => (List.drop_sublist ..).mem
  have taken : text.take (text.takeWhile isIndent).length = text.takeWhile isIndent :=
    List.prefix_iff_eq_take.mp (List.takeWhile_prefix _) |>.symm
  refine ⟨text.takeWhile isIndent, others.map Piece.said,
    fun c member => List.all_eq_true.mp List.all_takeWhile c member, said_construct inside built,
    ?_⟩
  simp [Piece.said, Cursor.piece, taken]

/-- A phrase that is written behind an indentation is read behind it. -/
theorem pieces_spelled {margin : Text} (indents : Text.Indents margin) {said : List Said}
    (phrase : Phrase said) {before : Option TokenKind} (starts : begins before = true) :
    Text.allBlank (margin ++ spelled before said) = false ∧
      ∃ found, pieces (margin ++ spelled before said) = .ok found ∧
        found.map Piece.said = (.whiteSpace, margin) :: said := by
  obtain ⟨mark, rest, shape, spoken, found, built, same⟩ :=
    construct_spelled phrase starts margin.length
  have apart : ∀ c ∈ (mark :: rest).head?, isIndent c = false := by
    rintro c ⟨⟩
    refine eq_false_of_ne_true fun indent => ?_
    rw [Text.isBlank_of_isIndent indent] at spoken
    cases spoken
  have run : (margin ++ mark :: rest).takeWhile isIndent = margin := takeWhile_again indents apart
  have skipped : (Cursor.mk 0 (margin ++ mark :: rest)).skipIndent =
      ⟨margin.length, mark :: rest⟩ := by
    rw [Cursor.skipIndent]
    simp [Cursor.advance, run]
  rw [shape]
  refine ⟨by simp [Text.allBlank, spoken], ⟨.whiteSpace, margin, 0⟩ :: found, ?_, ?_⟩
  · rw [pieces]
    simp only [skipped, built, run, Cursor.piece, List.take_left]
    rfl
  · rw [List.map_cons, same]
    rfl

/-! ### Sources that are written anew -/

theorem last_ne_none {said : List Said} (present : said ≠ []) (before : Option TokenKind) :
    last before said ≠ none := by
  induction said generalizing before with
  | nil => exact absurd rfl present
  | cons one rest ih =>
    cases rest with
    | nil => simp [last]
    | cons next rest => exact ih (by simp) (some one.1)

theorem tame_gap {kind : TokenKind} (inner : kind ≠ .whiteSpace) (before : Option TokenKind) :
    Tame (gap before kind) := by
  have none : Tame [] := by simp [Tame]
  have blank : Tame [' '] := by simp [Tame, isIndent]
  have sign : Tame ['\\'] := by simp [Tame, isBlank]
  unfold gap
  split
  next => exact absurd rfl inner
  next => split <;> assumption
  next => split <;> assumption
  next => exact blank
  next => exact blank
  next => exact blank
  next => split <;> assumption
  next => split <;> assumption
  next => exact none

/-- What is written within a line breaks no line. -/
theorem tame_spelled {said : List Said} (inner : ∀ one ∈ said, one.1 ≠ .whiteSpace)
    (contents : ∀ one ∈ said, Tame one.2) (before : Option TokenKind) :
    Tame (spelled before said) := by
  induction said generalizing before with
  | nil => simp [spelled, Tame]
  | cons one rest ih =>
    obtain ⟨kind, inner⟩ := List.forall_mem_cons.mp inner
    obtain ⟨content, contents⟩ := List.forall_mem_cons.mp contents
    exact Text.tame_append.mpr
      ⟨Text.tame_append.mpr ⟨tame_gap kind before, content⟩, ih inner contents _⟩

theorem Word.inner {word : Said} (legal : Word word) : word.1 ≠ .whiteSpace := by
  cases legal <;> simp

theorem Value.inner {one : Said} (legal : Value one) : one.1 ≠ .whiteSpace := by
  cases legal <;> simp

theorem Marked.inner {mark : Char} {kind : TokenKind} (sign : kind ≠ .whiteSpace) {said : List Said}
    (marked : Marked mark kind said) : ∀ one ∈ said, one.1 ≠ .whiteSpace := by
  cases marked with
  | absent => simp
  | present legal => simp [sign, legal.inner]

theorem Pairs.inner {pairs : List Said} (paired : Pairs pairs) :
    ∀ one ∈ pairs, one.1 ≠ .whiteSpace := by
  induction paired with
  | nil => simp
  | cons named valued others ih => simp [named.inner, valued.inner] at ih ⊢; exact ih

theorem Inline.inner {inline : List Said} (behind : Inline inline) :
    ∀ one ∈ inline, one.1 ≠ .whiteSpace := by
  cases behind <;> simp

/-- No phrase has an indentation in it. -/
theorem Phrase.inner {said : List Said} (phrase : Phrase said) :
    ∀ one ∈ said, one.1 ≠ .whiteSpace := by
  cases phrase with
  | tag named marked sorted present paired behind =>
    simp only [List.forall_mem_append]
    exact ⟨⟨⟨⟨named.inner (by decide), marked.inner (by decide)⟩, sorted.inner (by decide)⟩,
      paired.inner⟩, behind.inner⟩
  | _ => simp

theorem Phrase.present {said : List Said} (phrase : Phrase said) : said ≠ [] := by
  rintro rfl
  obtain ⟨_, _, shape, _⟩ := @construct_spelled _ phrase none rfl 0
  cases shape

/-- A line that says what it does wherever it stands. -/
structure Spells (first : Bool) (text : Text) (said : List Said) : Prop where
  tame : Tame text
  spoken : Text.allBlank text = false
  read : ∀ number offset, ∃ tokens, place number offset first text = .ok tokens ∧
    tokens.map Token.said = said

/-- What a line says, but for an indentation that its tokens leave out. -/
def told (first : Bool) : List Said → List Said
  | [] => []
  | indent :: said => if first ∧ indent.2 = [] then said else indent :: said

theorem said_shown (first : Bool) (found : List Piece) (number offset : Nat) :
    ((shown first found).map fun piece => piece.at number offset).map Token.said =
      told first (found.map Piece.said) := by
  rw [List.map_map]
  cases found with
  | nil => rfl
  | cons indent rest =>
    rw [shown, List.map_cons, told]
    by_cases hidden : first = true ∧ indent.content = []
    next =>
      have also : first = true ∧ indent.said.2 = [] := hidden
      rw [if_pos hidden, if_pos also]
      rfl
    next =>
      have also : ¬(first = true ∧ indent.said.2 = []) := hidden
      rw [if_neg hidden, if_neg also]
      rfl

theorem mem_told {first : Bool} {indent one : Said} {said : List Said} (member : one ∈ said) :
    one ∈ told first (indent :: said) := by
  rw [told]
  split
  next => exact member
  next => exact List.mem_cons_of_mem _ member

/-- Without a token for it the indentation is empty. -/
theorem spelled_told (first : Bool) (margin : Text) (said : List Said) :
    ∃ behind, begins behind = true ∧ ∀ before, (first = true → before = none) →
      spelled before (told first ((.whiteSpace, margin) :: said)) =
        gap before .whiteSpace ++ (margin ++ spelled behind said) := by
  rw [told]
  split
  next hidden =>
    refine ⟨none, rfl, fun before start => ?_⟩
    cases start hidden.1
    cases hidden.2
    rfl
  next => exact ⟨some .whiteSpace, rfl, fun before _ => List.append_assoc ..⟩

/-- The line of a row is written anew behind the break that ends the line before it. -/
theorem spells_row {text : Text} (tame : Tame text) {number offset : Nat} {first : Bool}
    {tokens : List Token} (placed : place number offset first text = .ok tokens)
    (contents : ∀ token ∈ tokens, Tame token.content) :
    tokens ≠ [] ∧ ∃ other, Spells first other (tokens.map Token.said) ∧
      ∀ before, (first = true → before = none) →
        spelled before (tokens.map Token.said) = gap before .whiteSpace ++ other := by
  unfold place at placed
  split at placed
  next found read =>
    cases placed
    obtain ⟨margin, said, indents, phrase, same⟩ := said_pieces tame read
    have tokens_said := said_shown first found number offset
    rw [same] at tokens_said
    have inner : ∀ one ∈ said, Tame one.2 := by
      intro one member
      have among : one ∈ told first ((.whiteSpace, margin) :: said) := mem_told member
      rw [← tokens_said] at among
      obtain ⟨token, inside, rfl⟩ := List.mem_map.mp among
      exact contents token inside
    obtain ⟨behind, starts, spelling⟩ := spelled_told first margin said
    obtain ⟨spoken, again, reread, alike⟩ := pieces_spelled indents phrase starts
    refine ⟨?_, margin ++ spelled behind said, ⟨?_, spoken, fun number offset => ?_⟩, ?_⟩
    · obtain ⟨one, rest, shape⟩ := List.exists_cons_of_ne_nil phrase.present
      have among : one ∈ told first ((.whiteSpace, margin) :: said) := mem_told (by simp [shape])
      rintro none
      rw [← tokens_said, none] at among
      cases among
    · exact Text.tame_append.mpr
        ⟨fun c member _ => indents c member, tame_spelled phrase.inner inner behind⟩
    · rw [place, reread]
      refine ⟨_, rfl, ?_⟩
      rw [said_shown, alike, tokens_said]
    · rw [tokens_said]
      exact spelling
  next => cases placed

theorem lines_tame {text : Text} (tame : Tame text) (present : text ≠ []) :
    Text.lines text = [⟨text, []⟩] := by
  induction text with
  | nil => exact absurd rfl present
  | cons c rest ih =>
    have inside := tame.inside c (by simp)
    rw [Text.lines_inside (by simp [inside])]
    cases rest with
    | nil => rfl
    | cons d rest =>
      rw [ih (Text.tame_cons.mp tame).2 (by simp)]
      rfl

/-- Lines that are written one under the other are read one after the other. -/
theorem lexLines_spells {first : Bool} {text : Text} {said : List Said}
    (here : Spells first text said) {texts : List Text} {others : List (List Said)}
    (later : List.Forall₂ (Spells false) texts others)
    (number offset : Nat) :
    ∃ tokens, lexLines number offset first
        (Text.lines (text ++ texts.flatMap ('\n' :: ·))) = .ok tokens ∧
      tokens.map Token.said = said ++ others.flatten := by
  induction later generalizing first text said number offset with
  | nil =>
    obtain ⟨tokens, read, same⟩ := here.read number offset
    have present : text ≠ [] := by
      rintro rfl
      cases here.spoken
    refine ⟨tokens ++ [], ?_, by simp [same]⟩
    rw [List.flatMap_nil, List.append_nil, lines_tame here.tame present, lexLines]
    have whole : content ⟨text, []⟩ = text := rfl
    simp only [whole, here.spoken, Bool.false_eq_true, if_false, read]
    rfl
  | @cons next said' texts others one later ih =>
    obtain ⟨tokens, read, same⟩ := here.read number offset
    obtain ⟨more, rest, alike⟩ := ih one (number + 1) (offset + (text ++ ['\n']).length)
    refine ⟨tokens ++ more, ?_, by simp [same, alike]⟩
    rw [List.flatMap_cons, List.cons_append, Text.lines_feed here.tame.inside, lexLines]
    have whole : content ⟨text, ['\n']⟩ = text := rfl
    simp only [whole, here.spoken, Bool.false_eq_true, if_false, read, Text.Line.whole, rest]
    rfl

theorem spells_rows {rows : List Markup.Row} {tokens : List Token}
    (tame : ∀ row ∈ rows, Tame row.text) (lexed : Markup.lexRows false rows = .ok tokens)
    (contents : ∀ token ∈ tokens, Tame token.content) :
    ∃ texts others, List.Forall₂ (Spells false) texts others ∧
      tokens.map Token.said = others.flatten ∧
      ∀ before, before ≠ none →
        spelled before (tokens.map Token.said) = texts.flatMap ('\n' :: ·) := by
  induction rows generalizing tokens with
  | nil =>
    cases lexed
    exact ⟨[], [], .nil, rfl, fun _ _ => rfl⟩
  | cons row rest ih =>
    obtain ⟨here, later⟩ := List.forall_mem_cons.mp tame
    obtain ⟨found, placed, lexed⟩ := Outcome.bind_eq_ok.mp lexed
    obtain ⟨more, read, lexed⟩ := Outcome.bind_eq_ok.mp lexed
    cases lexed
    obtain ⟨inside, behind⟩ := List.forall_mem_append.mp contents
    obtain ⟨texts, others, spells, same, spelling⟩ := ih later read behind
    obtain ⟨present, text, spell, written⟩ := spells_row here placed inside
    refine ⟨text :: texts, found.map Token.said :: others, .cons spell spells, by simp [same],
      fun before behind => ?_⟩
    have broken : gap before .whiteSpace = ['\n'] := if_neg behind
    rw [List.map_append, spelled_append, written before (by simp), broken,
      spelling _ (last_ne_none (by simpa using present) before)]
    rfl

/-- A source that has no blanks but spaces, tabs and line breaks is read again from its tokens. -/
theorem lex_spelled {source : Text} {tokens : List Token}
    (blanks : ∀ c ∈ source, isBlank c = true → c ∈ [' ', '\t', '\r', '\n'])
    (lexed : lex source = .ok tokens) :
    ∃ again, lex (spelled none (tokens.map Token.said)) = .ok again ∧
      again.map Token.said = tokens.map Token.said := by
  have tame {text : Text} (unbroken : text.Unbroken) (inside : ∀ c ∈ text, c ∈ source) :
      Tame text := by
    intro c member blank
    obtain ⟨feed, carriage⟩ := unbroken c member
    have known := blanks c (inside c member) blank
    simp only [List.mem_cons, List.not_mem_nil, or_false, feed, carriage] at known
    rcases known with rfl | rfl <;> rfl
  have rows_tame : ∀ row ∈ Markup.rows source, Tame row.text := by
    intro row member
    obtain ⟨line, within, same⟩ := Markup.mem_rowsFrom member
    exact tame (Markup.unbroken_row member)
      fun c inside => Markup.mem_lines within (Markup.mem_content (same ▸ inside))
  have contents : ∀ token ∈ tokens, Tame token.content := by
    intro token member
    have slice := ((Markup.lex_tiled lexed).placed token member).slice
    exact tame (unbroken_lex lexed token member) fun c inside =>
      (List.drop_sublist ..).mem ((List.take_sublist ..).mem (slice ▸ inside))
  rw [Markup.lex_eq] at lexed
  cases rows : Markup.rows source with
  | nil =>
    rw [rows] at lexed
    cases lexed
    exact ⟨[], rfl, rfl⟩
  | cons row rest =>
    rw [rows] at lexed rows_tame
    obtain ⟨here, later⟩ := List.forall_mem_cons.mp rows_tame
    obtain ⟨found, placed, lexed⟩ := Outcome.bind_eq_ok.mp lexed
    obtain ⟨more, read, lexed⟩ := Outcome.bind_eq_ok.mp lexed
    cases lexed
    obtain ⟨inside, behind⟩ := List.forall_mem_append.mp contents
    obtain ⟨present, text, spell, written⟩ := spells_row here placed inside
    obtain ⟨texts, others, spells, same, spelling⟩ := spells_rows later read behind
    have after := last_ne_none (by simpa using present : found.map Token.said ≠ []) none
    have whole : spelled none ((found ++ more).map Token.said) =
        text ++ texts.flatMap ('\n' :: ·) := by
      rw [List.map_append, spelled_append, written none (fun _ => rfl), spelling _ after]
      rfl
    rw [whole, List.map_append, same]
    exact lexLines_spells spell spells 1 0

/-- A line for each thing that a line can say, with blanks that nobody needs. -/
def spacedSource : Text :=
  "\n!!!5 \r\n%a#\x7bx\x7d.c\tb=\"c d\"  \x7be\x7d=\x7bf\x7d=  g\r\t/note \n".toList ++
    "  \\%x \n-x = 1\n %p e=f   word \n.c\n ==y\n !!!\n".toList

def tightSource : Text :=
  "!!! 5\n%a#\x7bx\x7d.c b=\"c d\" \x7be\x7d=\x7bf\x7d = g\n\t/ note\n".toList ++
    "  \\%x\n- x = 1\n %p e=f word\n.c\n = =y\n !!!".toList

theorem lex_spelled_lines : ∃ tokens again, lex spacedSource = .ok tokens ∧
    spelled none (tokens.map Token.said) = tightSource ∧ lex tightSource = .ok again ∧
    again.map Token.said = tokens.map Token.said := by
  have spaced : spacedSource = _ :=
    congrArg₂ (· ++ ·) String.toList_ofList String.toList_ofList
  have tight : tightSource = _ :=
    congrArg₂ (· ++ ·) String.toList_ofList String.toList_ofList
  have succeeds : (lex spacedSource).toOption.map
      (fun tokens => spelled none (tokens.map Token.said)) = some tightSource := by
    rw [spaced, tight]
    decide +kernel
  obtain ⟨tokens, lexed, same⟩ := Outcome.ok_of_map succeeds
  have blanks : (spacedSource.all fun c => !isBlank c || [' ', '\t', '\r', '\n'].contains c) =
      true := by
    rw [spaced]
    decide +kernel
  obtain ⟨again, read, alike⟩ := lex_spelled (by simpa [imp_iff_not_or] using blanks) lexed
  exact ⟨tokens, again, lexed, same, same ▸ read, alike⟩

end Lexer

end Stencil
