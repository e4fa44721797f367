import Stencil.Proofs.Markup.Trailing

/-!
A boundary that stays at the end of a line. Every part of the lexer but one leaves it alone: behind
a tag without content it is taken for the content, a character that nothing sets off from the tag
or, where blanks do, a text without characters.
-/

set_option autoImplicit false

namespace Stencil

theorem Markup.Closes.blanks {tail : Text} (closes : Markup.Closes tail) : Text.Blanks tail :=
  fun _ member => (closes.blank member).1

namespace Lexer

open Markup (Closes)
open Text (isBlank isIndent)

variable {tail more : Text} {cursor after : Cursor} {c : Char}

/-! ### Tags without content -/

def Piece.reach (piece : Piece) : Nat := piece.column + piece.content.length

/-- The last piece of a tag without content: a name or a value. -/
def bare? : Except Fault (List Piece) → Option Piece
  | .ok found => found.getLast?.filter fun last => Builder.attributeValueKinds.contains last.kind
  | .error _ => none

/-- What is read where a boundary begins at the given place, if this is what is read without it. -/
def spoiled (c : Char) (place : Nat) (outcome : Except Fault (List Piece)) :
    Except Fault (List Piece) :=
  match bare? outcome with
  | none => outcome
  | some last =>
    if last.reach = place then .error ⟨.unexpectedCharacter c, place⟩
    else outcome.map (· ++ [⟨.text, [], place⟩])

theorem bare?_append (front : List Piece) (last : Piece) :
    bare? (.ok (front ++ [last])) =
      if Builder.attributeValueKinds.contains last.kind then some last else none := by
  simp [bare?, Option.filter_some]

theorem spoiled_of_none {outcome : Except Fault (List Piece)} (none : bare? outcome = none)
    (place : Nat) : spoiled c place outcome = outcome := by
  rw [spoiled, none]

theorem spoiled_content (front : List Piece) {last : Piece}
    (other : Builder.attributeValueKinds.contains last.kind = false) (place : Nat) :
    spoiled c place (.ok (front ++ [last])) = .ok (front ++ [last]) := by
  apply spoiled_of_none
  rw [bare?_append, other]
  rfl

theorem spoiled_tag (front : List Piece) {last : Piece}
    (part : Builder.attributeValueKinds.contains last.kind = true) (place : Nat) :
    spoiled c place (.ok (front ++ [last])) =
      if last.reach = place then .error ⟨.unexpectedCharacter c, place⟩
      else .ok (front ++ [last] ++ [⟨.text, [], place⟩]) := by
  rw [spoiled, bare?_append, part]
  rfl

/-- What is in front of a line does not matter. -/
theorem spoiled_cons {first : Piece}
    (other : Builder.attributeValueKinds.contains first.kind = false)
    (outcome : Except Fault (List Piece)) (place : Nat) :
    spoiled c place (outcome.map (first :: ·)) = (spoiled c place outcome).map (first :: ·) := by
  cases outcome with
  | error fault => rfl
  | ok found =>
    rcases List.eq_nil_or_concat found with rfl | ⟨front, last, concat⟩
    · exact spoiled_content [] other place
    rw [List.concat_eq_append] at concat
    subst concat
    have longer : Except.map (first :: ·) (.ok (front ++ [last]) : Except Fault _) =
        .ok ((first :: front) ++ [last]) := rfl
    rw [longer]
    cases part : Builder.attributeValueKinds.contains last.kind with
    | false => rw [spoiled_content _ part, spoiled_content _ part, longer]
    | true =>
      rw [spoiled_tag _ part, spoiled_tag _ part]
      split <;> rfl

/-! ### Where the parts of a tag end -/

theorem reach_piece {count : Nat} (within : count ≤ cursor.rest.length) (kind : TokenKind) :
    (cursor.piece kind count).reach = (cursor.advance count).column := by
  simp [Piece.reach, Cursor.piece, Cursor.advance, within]

theorem value_reach {piece : Piece} (found : value cursor = .ok (piece, after)) :
    piece.reach = after.column := by
  by_cases brace : cursor.rest.head? = some '{'
  next =>
    obtain ⟨rest, shape⟩ := List.head?_eq_some_iff.mp brace
    rw [value_bracket shape] at found
    cases read : Bracket.stop cursor.rest with
    | error fault =>
      rw [read] at found
      cases found
    | ok stop =>
      rw [read] at found
      cases found
      refine reach_piece ?_ _
      rw [shape] at read ⊢
      exact stop_le read
  next =>
    rw [value_name brace] at found
    split at found
    next => cases found
    next =>
      cases found
      exact reach_piece (length_takeWhile_le ..) _

theorem attributeValue_reach {piece : Piece} (found : attributeValue cursor = .ok (piece, after)) :
    piece.reach = after.column := by
  by_cases quote : cursor.rest.head? = some '"'
  next =>
    obtain ⟨rest, shape⟩ := List.head?_eq_some_iff.mp quote
    rw [attributeValue_quoted shape] at found
    cases read : Bracket.stringEnd? '"' rest with
    | none =>
      rw [read] at found
      cases found
    | some stop =>
      rw [read] at found
      cases found
      refine reach_piece ?_ _
      rw [shape]
      exact Nat.succ_le_succ (Bracket.stringEnd?_le read).2
  next =>
    by_cases brace : cursor.rest.head? = some '{'
    next =>
      obtain ⟨rest, shape⟩ := List.head?_eq_some_iff.mp brace
      rw [attributeValue_bracket shape] at found
      exact value_reach found
    next =>
      rw [attributeValue_plain quote brace] at found
      split at found
      next => cases found
      next =>
        cases found
        exact reach_piece (length_takeWhile_le ..) _

/-- Nothing was read, or pieces the last of which is a part of a tag and ends at the cursor. -/
def Stops (start : Cursor) (found : List Piece × Cursor) : Prop :=
  found = ([], start) ∨ ∃ front last, found.1 = front ++ [last] ∧
    Builder.attributeValueKinds.contains last.kind = true ∧ last.reach = found.2.column

theorem Stops.append {start middle : Cursor} {first others : List Piece}
    (here : Stops start (first, middle)) (later : Stops middle (others, after)) :
    Stops start (first ++ others, after) := by
  rcases later with same | ⟨front, last, rfl, part, reach⟩
  · cases same
    rwa [List.append_nil]
  · exact .inr ⟨first ++ front, last, (List.append_assoc ..).symm, part, reach⟩

theorem part_of_tagValue {kind : TokenKind} (member : kind ∈ Builder.tagValueKinds) :
    Builder.attributeValueKinds.contains kind = true := by
  simp only [Builder.tagValueKinds, List.mem_cons, List.not_mem_nil, or_false] at member
  rcases member with rfl | rfl <;> rfl

theorem sign_stops {mark : Char} {kind : TokenKind} {found : List Piece × Cursor}
    (read : sign mark kind cursor = .ok found) : Stops cursor found := by
  unfold sign at read
  split at read
  next =>
    obtain ⟨⟨name, behind⟩, valued, read⟩ := Outcome.bind_eq_ok.mp read
    cases read
    exact .inr ⟨[_], name, rfl, part_of_tagValue (Markup.value_kind valued), value_reach valued⟩
  next =>
    cases read
    exact .inl rfl

theorem attribute_stops {found : List Piece × Cursor}
    (read : attribute? cursor = .ok (some found)) : Stops cursor found := by
  obtain ⟨name?, named, read⟩ := Outcome.bind_eq_ok.mp read
  cases name? with
  | none => cases read
  | some pair =>
    obtain ⟨name, connector⟩ := pair
    obtain ⟨⟨value, behind⟩, valued, read⟩ := Outcome.bind_eq_ok.mp read
    cases read
    have kind := (Markup.attributeValue_kind valued).1
    exact .inr ⟨[_, _], value, rfl, List.contains_iff_mem.mpr kind, attributeValue_reach valued⟩

theorem attributes_stops {found : List Piece × Cursor} (read : attributes cursor = .ok found) :
    Stops cursor found := by
  induction size : cursor.rest.length using Nat.strongRecOn generalizing cursor found with
  | ind size ih =>
    rw [attributes] at read
    obtain ⟨first?, one, read⟩ := Outcome.bind_eq_ok.mp read
    cases first? with
    | none =>
      cases read
      exact .inl rfl
    | some pair =>
      obtain ⟨first, between⟩ := pair
      have here := attribute_stops one
      simp only at read
      split at read
      next shorter =>
        obtain ⟨⟨others, last⟩, more, read⟩ := Outcome.bind_eq_ok.mp read
        cases read
        exact here.append (ih _ (size ▸ shorter) more rfl)
      next =>
        cases read
        exact here

/-- What a tag says before its content. -/
def parts (cursor : Cursor) : Except Fault (List Piece × Cursor) := do
  let (element, cursor) ← sign '%' .elementIdentifier cursor
  let (id, cursor) ← sign '#' .elementIdIdentifier cursor
  let (classes, cursor) ← sign '.' .elementClassIdentifier cursor
  let (pairs, cursor) ← attributes cursor
  return (element ++ id ++ classes ++ pairs, cursor)

theorem tag_eq (cursor : Cursor) :
    tag cursor = (do
      let (front, after) ← parts cursor
      let content ← inlineContent after
      return front ++ content) := by
  simp only [tag, parts, bind_assoc, pure_bind]

/-- The steps of `parts`, one after the other. -/
theorem parts_steps {found : List Piece × Cursor} (read : parts cursor = .ok found) :
    ∃ element one id two classes three pairs,
      sign '%' .elementIdentifier cursor = .ok (element, one) ∧
      sign '#' .elementIdIdentifier one = .ok (id, two) ∧
      sign '.' .elementClassIdentifier two = .ok (classes, three) ∧
      attributes three = .ok (pairs, found.2) ∧ found.1 = element ++ id ++ classes ++ pairs := by
  obtain ⟨⟨element, one⟩, first, read⟩ := Outcome.bind_eq_ok.mp read
  obtain ⟨⟨id, two⟩, second, read⟩ := Outcome.bind_eq_ok.mp read
  obtain ⟨⟨classes, three⟩, third, read⟩ := Outcome.bind_eq_ok.mp read
  obtain ⟨⟨pairs, four⟩, fourth, read⟩ := Outcome.bind_eq_ok.mp read
  cases read
  exact ⟨element, one, id, two, classes, three, pairs, first, second, third, fourth, rfl⟩

theorem parts_stops {found : List Piece × Cursor} (read : parts cursor = .ok found) :
    Stops cursor found := by
  obtain ⟨element, one, id, two, classes, three, pairs, first, second, third, fourth, same⟩ :=
    parts_steps read
  have all := (((sign_stops first).append (sign_stops second)).append (sign_stops third)).append
    (attributes_stops fourth)
  rwa [← same] at all

/-- The parts take up the columns up to the cursor behind them. -/
theorem parts_extent {found : List Piece × Cursor} (read : parts cursor = .ok found) :
    found.2.column + found.2.rest.length = cursor.column + cursor.rest.length := by
  obtain ⟨element, one, id, two, classes, three, pairs, first, second, third, fourth, same⟩ :=
    parts_steps read
  have closes : Closes [] := List.forall_mem_nil _
  have within (cursor : Cursor) : cursor.rest = cursor.rest ++ [] := (List.append_nil _).symm
  have named := Markup.cuts_sign closes (within _) (by decide) first
  have marked := Markup.cuts_sign closes (within _) (by decide) second
  have sorted := Markup.cuts_sign closes (within _) (by decide) third
  have paired := Markup.cuts_attributes closes (within _) fourth
  obtain ⟨text, left, shape, behind, _⟩ := ((named.trans marked).trans sorted).trans paired
  rw [behind, shape]
  simp only [List.length_append]
  omega

theorem sign_nonempty {mark : Char} {kind : TokenKind} {found : List Piece × Cursor}
    (next : cursor.rest.head? = some mark) (read : sign mark kind cursor = .ok found) :
    found.1 ≠ [] := by
  rw [sign, if_pos next] at read
  obtain ⟨_, _, read⟩ := Outcome.bind_eq_ok.mp read
  cases read
  simp

theorem sign_absent {mark : Char} {kind : TokenKind} {found : List Piece × Cursor}
    (other : cursor.rest.head? ≠ some mark) (read : sign mark kind cursor = .ok found) :
    found = ([], cursor) := by
  rw [sign, if_neg other] at read
  cases read
  rfl

theorem parts_nonempty {found : List Piece × Cursor} (read : parts cursor = .ok found)
    (tagged : ∃ mark ∈ ['%', '#', '.'], cursor.rest.head? = some mark) : found.1 ≠ [] := by
  obtain ⟨element, one, id, two, classes, three, pairs, first, second, third, fourth, same⟩ :=
    parts_steps read
  obtain ⟨mark, member, next⟩ := tagged
  simp only [List.mem_cons, List.not_mem_nil, or_false] at member
  rw [same]
  rcases member with rfl | rfl | rfl
  · simp [sign_nonempty next first]
  · cases sign_absent (by simp [next]) first
    simp [sign_nonempty next second]
  · cases sign_absent (by simp [next]) first
    cases sign_absent (by simp [next]) second
    simp [sign_nonempty next third]

theorem parts_trailed (blanks : Text.Blanks tail) (cursor : Cursor) :
    parts (cursor.trailed tail) = (parts cursor).map (carried tail) := by
  have each {α β : Type} {first : Except Fault (α × Cursor)}
      {next : α × Cursor → Except Fault (β × Cursor)}
      (same : ∀ found, next (carried tail found) = (next found).map (carried tail)) :
      first.map (carried tail) >>= next = (first >>= next).map (carried tail) := by
    cases first with
    | error fault => rfl
    | ok found => exact same found
  rw [parts, parts, sign_trailed (by decide) blanks]
  apply each
  intro ⟨element, cursor⟩
  simp only [carried]
  rw [sign_trailed (by decide) blanks]
  apply each
  intro ⟨id, cursor⟩
  simp only [carried]
  rw [sign_trailed (by decide) blanks]
  apply each
  intro ⟨classes, cursor⟩
  simp only [carried]
  rw [attributes_trailed blanks]
  exact each fun _ => rfl

/-! ### Boundaries at the end -/

/-- A boundary does not indent. -/
theorem skipIndent_boundary (closes : Closes tail) (cursor : Cursor) :
    (cursor.trailed tail).skipIndent = cursor.skipIndent.trailed tail := by
  have same : (cursor.trailed tail).rest.takeWhile isIndent = cursor.rest.takeWhile isIndent :=
    Markup.takeWhile_append_closing fun c member => (closes.blank member).2.1
  rw [Cursor.skipIndent, Cursor.skipIndent, same, advance_trailed (length_takeWhile_le ..)]

theorem signAndRest_boundary (closes : Closes tail) (within : 1 ≤ cursor.rest.length)
    (identifier kind : TokenKind) :
    signAndRest identifier kind (cursor.trailed tail) = signAndRest identifier kind cursor := by
  rw [signAndRest, signAndRest, piece_trailed within, advance_trailed within,
    skipIndent_boundary closes, remainder_trailed closes.blanks]

theorem docType_boundary (closes : Closes tail) (within : 3 ≤ cursor.rest.length) :
    docType (cursor.trailed tail) = docType cursor := by
  rw [docType, docType, piece_trailed within, advance_trailed within, skipIndent_boundary closes,
    remainder_trailed closes.blanks]

/-- Content that is there is read as it is. -/
theorem inlineContent_present (closes : Closes tail) (present : cursor.skipIndent.rest ≠ []) :
    inlineContent (cursor.trailed tail) = inlineContent cursor := by
  cases shape : cursor.skipIndent.rest with
  | nil => exact absurd shape present
  | cons c rest =>
    have longer : (cursor.trailed tail).skipIndent.rest = c :: (rest ++ tail) := by
      rw [skipIndent_boundary closes, Cursor.trailed, shape]
      rfl
    by_cases code : c = '='
    next =>
      subst code
      rw [inlineContent_code shape, inlineContent_code longer, skipIndent_boundary closes,
        signAndRest_boundary closes (by simp [shape])]
    next =>
      rw [inlineContent_text shape code, inlineContent_text longer code, skipIndent_boundary closes,
        remainder_trailed closes.blanks]
      rfl

theorem signAndRest_content (identifier : TokenKind) {kind : TokenKind}
    (other : Builder.attributeValueKinds.contains kind = false) (cursor : Cursor) (place : Nat) :
    spoiled c place (.ok (signAndRest identifier kind cursor)) =
      .ok (signAndRest identifier kind cursor) :=
  spoiled_content [_] other place

/-- Content is no part of a tag. -/
theorem inlineContent_ends {found : List Piece} (read : inlineContent cursor = .ok found)
    (present : cursor.skipIndent.rest ≠ []) :
    ∃ front last, found = front ++ [last] ∧
      Builder.attributeValueKinds.contains last.kind = false := by
  unfold inlineContent at read
  simp only at read
  split at read
  next empty => exact absurd empty present
  next =>
    cases read
    exact ⟨[_], _, rfl, rfl⟩
  next =>
    split at read
    next => cases read
    next =>
      cases read
      exact ⟨[], _, rfl, rfl⟩

/-- A boundary is taken for content where there is none. -/
theorem inlineContent_absent (closes : Closes (c :: more)) (empty : cursor.skipIndent.rest = []) :
    inlineContent (cursor.trailed (c :: more)) =
      if cursor.rest = [] then .error ⟨.unexpectedCharacter c, cursor.column⟩
      else .ok [⟨.text, [], cursor.column + cursor.rest.length⟩] := by
  have indents := indents_of_skipIndent empty
  have all : cursor.rest.takeWhile isIndent = cursor.rest := List.takeWhile_eq_self_iff.mpr indents
  have column : cursor.skipIndent.column = cursor.column + cursor.rest.length := by
    rw [Cursor.skipIndent, all]
    rfl
  have skipped : (cursor.trailed (c :: more)).skipIndent =
      ⟨cursor.column + cursor.rest.length, c :: more⟩ := by
    rw [skipIndent_boundary closes, Cursor.trailed, empty, column]
    rfl
  have other : c ≠ '=' := by
    rintro rfl
    exact closes.not_mem (by decide) (List.mem_cons_self ..)
  have bare : Text.trimRight (c :: more) = [] := trimRight_blanks closes.blanks
  have flush : cursor.column + cursor.rest.length = cursor.column ↔ cursor.rest = [] := by
    rw [Nat.add_eq_left, List.length_eq_zero_iff]
  have shape : (cursor.trailed (c :: more)).skipIndent.rest = c :: more := by rw [skipped]
  rw [inlineContent_text shape other, skipped]
  simp only [Cursor.trailed, flush, Cursor.remainder, bare]
  split
  next none => simp [none]
  next => rfl

/-- Behind a tag without content, what a boundary is taken for depends on whether it comes at once. -/
theorem parts_boundary {front : List Piece} (closes : Closes (c :: more))
    (read : parts cursor = .ok (front, after)) (present : front ≠ [])
    (empty : after.skipIndent.rest = []) :
    (inlineContent (after.trailed (c :: more))).map (front ++ ·) =
      spoiled c (cursor.column + cursor.rest.length) (.ok front) := by
  have extent : after.column + after.rest.length = cursor.column + cursor.rest.length :=
    parts_extent read
  rcases parts_stops read with none | ⟨earlier, last, shape, part, reach⟩
  · exact absurd (congrArg Prod.fst none) present
  have shape : front = earlier ++ [last] := shape
  have flush : last.reach = cursor.column + cursor.rest.length ↔ after.rest = [] := by
    rw [reach, ← extent, Nat.left_eq_add, List.length_eq_zero_iff]
  rw [inlineContent_absent closes empty, shape, spoiled_tag earlier part]
  simp only [flush]
  by_cases none : after.rest = []
  next =>
    rw [if_pos none, if_pos none]
    simp [Except.map, ← extent, none]
  next =>
    rw [if_neg none, if_neg none, extent]
    rfl

theorem tag_boundary (closes : Closes (c :: more))
    (tagged : ∃ mark ∈ ['%', '#', '.'], cursor.rest.head? = some mark) :
    tag (cursor.trailed (c :: more)) =
      spoiled c (cursor.column + cursor.rest.length) (tag cursor) := by
  rw [tag_eq, tag_eq, parts_trailed closes.blanks]
  cases read : parts cursor with
  | error fault => rfl
  | ok found =>
    obtain ⟨front, after⟩ := found
    simp only [Except.map, Outcome.ok_bind, carried]
    by_cases empty : after.skipIndent.rest = []
    next =>
      have absent : inlineContent after = .ok [] := inlineContent_blank (indents_of_skipIndent empty)
      have bare := parts_boundary closes read (parts_nonempty read tagged) empty
      rw [absent, Outcome.ok_bind, List.append_nil]
      refine Eq.trans ?_ bare
      cases inlineContent (after.trailed (c :: more)) <;> rfl
    next =>
      rw [inlineContent_present closes empty]
      cases content : inlineContent after with
      | error fault => rfl
      | ok found =>
        obtain ⟨others, last, rfl, other⟩ := inlineContent_ends content empty
        have kept := @spoiled_content c (front ++ others) last other
          (cursor.column + cursor.rest.length)
        rw [List.append_assoc] at kept
        exact kept.symm

theorem construct_boundary (closes : Closes (c :: more)) (cursor : Cursor) :
    construct (cursor.trailed (c :: more)) =
      spoiled c (cursor.column + cursor.rest.length) (construct cursor) := by
  let place := cursor.column + cursor.rest.length
  have text (cursor : Cursor) : spoiled c place (.ok [cursor.remainder .text]) =
      .ok [cursor.remainder .text] := spoiled_content [] rfl place
  rw [construct_eq, construct_eq]
  by_cases starts : "!!!".toList.isPrefixOf cursor.rest = true
  next =>
    have within := (List.isPrefixOf_iff_prefix.mp starts).length_le
    rw [if_pos starts, if_pos ((isDocType_trailed closes.blanks cursor).mpr starts),
      docType_boundary closes within]
    refine (spoiled_of_none ?_ place).symm
    rw [docType]
    split <;> rfl
  next =>
    rw [if_neg starts, if_neg fun same => starts ((isDocType_trailed closes.blanks cursor).mp same)]
    cases shape : cursor.rest with
    | nil =>
      have begins : (cursor.trailed (c :: more)).rest.head? = some c := by
        simp [Cursor.trailed, shape]
      rw [begins, signed_blank (closes.blank (List.mem_cons_self ..)).1,
        remainder_trailed closes.blanks]
      exact (spoiled_content [] rfl _).symm
    | cons d rest =>
      have within : 1 ≤ cursor.rest.length := by simp [shape]
      have head : (cursor.trailed (c :: more)).rest.head? = some d := by
        simp [Cursor.trailed, shape]
      have marked (mark : Char) (same : d = mark) : cursor.rest.head? = some mark := by
        simp [shape, same]
      rw [head, List.head?_cons, ← shape]
      unfold signed
      split
      next => rw [signAndRest_boundary closes within, signAndRest_content _ rfl]
      next => rw [signAndRest_boundary closes within, signAndRest_content _ rfl]
      next => rw [signAndRest_boundary closes within, signAndRest_content _ rfl]
      next =>
        rw [advance_trailed within, remainder_trailed closes.blanks]
        exact (text _).symm
      next same => exact tag_boundary closes ⟨'%', by simp, marked _ (Option.some.inj same)⟩
      next same => exact tag_boundary closes ⟨'#', by simp, marked _ (Option.some.inj same)⟩
      next same => exact tag_boundary closes ⟨'.', by simp, marked _ (Option.some.inj same)⟩
      next =>
        rw [remainder_trailed closes.blanks]
        exact (text cursor).symm

/-- What a line with a boundary at its end is read as. -/
theorem pieces_boundary (closes : Closes (c :: more)) (body : Text) :
    pieces (body ++ c :: more) = spoiled c body.length (pieces body) := by
  let start : Cursor := ⟨0, body⟩
  let margin := start.piece .whiteSpace (body.takeWhile isIndent).length
  have run : (body ++ c :: more).takeWhile isIndent = body.takeWhile isIndent :=
    Markup.takeWhile_append_closing fun c member => (closes.blank member).2.1
  have within : (body.takeWhile isIndent).length ≤ start.rest.length := length_takeWhile_le ..
  have indent : (start.trailed (c :: more)).piece .whiteSpace (body.takeWhile isIndent).length =
      margin := piece_trailed within _
  have read (cursor : Cursor) (first : Piece) :
      (do
        let found ← construct cursor
        return first :: found) = (construct cursor).map (first :: ·) := by
    cases construct cursor <;> rfl
  have extent : start.skipIndent.column + start.skipIndent.rest.length = body.length := by
    simp only [start, Cursor.skipIndent, Cursor.advance, List.length_drop]
    have := length_takeWhile_le isIndent body
    omega
  calc pieces (body ++ c :: more)
    _ = (construct (start.trailed (c :: more)).skipIndent).map (margin :: ·) := by
      rw [← read, ← indent, ← run]
      rfl
    _ = (spoiled c body.length (construct start.skipIndent)).map (margin :: ·) := by
      rw [skipIndent_boundary closes, construct_boundary closes, extent]
    _ = spoiled c body.length ((construct start.skipIndent).map (margin :: ·)) :=
      (spoiled_cons rfl _ _).symm
    _ = spoiled c body.length (pieces body) := by
      rw [← read]
      rfl

end Lexer

end Stencil
