import Mathlib.Data.List.TakeWhile
import Stencil.Proofs.Markup.Cut

/-!
Blanks at the end of a line. No part of the lexer takes them into a piece. Where they indent, none of
them is a reason to fail either: only a remainder without content is placed behind them.
-/

set_option autoImplicit false

namespace Stencil

/-! ### Texts -/

namespace Text

/-- Text of blanks, and nothing else. -/
def Blanks (text : Text) : Prop := ∀ c ∈ text, isBlank c = true

/-- Text that indents, and nothing else. -/
def Indents (text : Text) : Prop := ∀ c ∈ text, isIndent c = true

variable {tail left : Text}

theorem Indents.blanks (indents : Indents tail) : Blanks tail :=
  fun c member => isBlank_of_isIndent (indents c member)

theorem Blanks.of_cons {c : Char} (blanks : Blanks (c :: tail)) :
    isBlank c = true ∧ Blanks tail := List.forall_mem_cons.mp blanks

/-- The blanks by their code points. -/
def blanks : List Nat :=
  List.range' 9 5 ++ List.range' 28 5 ++ List.range' 0x2000 11 ++
    [0x85, 0xA0, 0x1680, 0x2028, 0x2029, 0x202F, 0x205F, 0x3000]

theorem mem_blanks {c : Char} (blank : isBlank c = true) : c.toNat ∈ blanks := by
  simp only [isBlank, Bool.or_eq_true, Bool.and_eq_true, decide_eq_true_eq, beq_iff_eq] at blank
  simp only [blanks, List.mem_append, List.mem_range'_1, List.mem_cons, List.not_mem_nil, or_false]
  omega

theorem isNameChar_of_mem_blanks : ∀ code ∈ blanks, Lexer.isNameChar (Char.ofNat code) = false := by
  decide +kernel

theorem isNameChar_of_isBlank {c : Char} (blank : isBlank c = true) :
    Lexer.isNameChar c = false := by
  rw [← Char.ofNat_toNat c]
  exact isNameChar_of_mem_blanks _ (mem_blanks blank)

theorem head?_trailed (blanks : Blanks tail) {c : Char} (other : isBlank c = false) :
    (left ++ tail).head? = some c ↔ left.head? = some c := by
  cases left with
  | cons first rest => simp
  | nil =>
    cases tail with
    | nil => simp
    | cons first rest =>
      have apart : first ≠ c := by
        rintro rfl
        rw [blanks.of_cons.1] at other
        cases other
      simp [apart]

end Text

namespace Bracket

open Text (Blanks isBlank)

variable {tail : Text}

theorem stringEnd?_cons {quote c : Char} (plain : c ≠ '\\') (rest : Text) :
    stringEnd? quote (c :: rest) =
      if c = quote then some 1 else (stringEnd? quote rest).map (· + 1) := by
  rw [stringEnd?]
  · rintro rfl
    exact absurd rfl plain
  · rintro d more rfl
    exact absurd rfl plain

/-- A string does not end in blanks, not even behind a backslash. -/
theorem stringEnd?_blanks {quote : Char} (other : isBlank quote = false)
    (blanks : Blanks tail) : stringEnd? quote tail = none := by
  fun_induction stringEnd? quote tail with
  | case1 => rfl
  | case2 => rfl
  | case3 c rest ih => rw [ih blanks.of_cons.2.of_cons.2, Option.map_none]
  | case4 =>
    rw [blanks.of_cons.1] at other
    cases other
  | case5 c rest _ _ _ ih => rw [ih blanks.of_cons.2, Option.map_none]

theorem stringEnd?_trailed {quote : Char} (other : isBlank quote = false) (blanks : Blanks tail)
    (text : Text) : stringEnd? quote (text ++ tail) = stringEnd? quote text := by
  fun_induction stringEnd? quote text with
  | case1 => exact stringEnd?_blanks other blanks
  | case2 =>
    cases tail with
    | nil => rfl
    | cons c rest =>
      -- the backslash hides the first of the blanks
      rw [List.cons_append, List.nil_append, stringEnd?,
        stringEnd?_blanks other blanks.of_cons.2, Option.map_none]
  | case3 c rest ih => rw [List.cons_append, List.cons_append, stringEnd?, ih]
  | case4 rest lone pair =>
    rw [List.cons_append, stringEnd?_cons (Text.plain_of_alone lone pair), if_pos rfl]
  | case5 c rest lone pair apart ih =>
    rw [List.cons_append, stringEnd?_cons (Text.plain_of_alone lone pair), if_neg apart, ih]

theorem closing_cons (depth : Nat) (c : Char) (rest : Text) :
    closing depth (c :: rest) =
      if isQuote c then
        match stringEnd? c rest with
        | none => .error (.openString 0)
        | some stop => shift (stop + 1) (closing depth (rest.drop stop))
      else if c = '{' then shift 1 (closing (depth + 1) rest)
      else if c = '}' then
        match depth with
        | 0 => .ok 1
        | outer + 1 => shift 1 (closing outer rest)
      else shift 1 (closing depth rest) :=
  closing.eq_def depth (c :: rest)

theorem isBlank_of_isQuote {c : Char} (quote : isQuote c = true) : isBlank c = false := by
  simp only [isQuote, Bool.or_eq_true, beq_iff_eq] at quote
  rcases quote with rfl | rfl <;> decide

theorem closing_blanks (depth : Nat) (blanks : Blanks tail) :
    closing depth tail = .error .openBracket := by
  induction tail with
  | nil => rw [closing]
  | cons c rest ih =>
    obtain ⟨blank, later⟩ := blanks.of_cons
    have apart {other : Char} (inked : isBlank other = false) : c ≠ other := by
      rintro rfl
      rw [blank] at inked
      cases inked
    have plain : isQuote c = false ∧ c ≠ '{' ∧ c ≠ '}' := by
      refine ⟨eq_false_of_ne_true fun quote => ?_, apart (by decide), apart (by decide)⟩
      exact apart (isBlank_of_isQuote quote) rfl
    rw [closing_cons]
    simp only [plain, Bool.false_eq_true, if_false, ih later]
    rfl

theorem closing_trailed (blanks : Blanks tail) (depth : Nat) (text : Text) :
    closing depth (text ++ tail) = closing depth text := by
  fun_induction closing depth text with
  | case1 depth => exact closing_blanks depth blanks
  | case2 depth c rest quote unclosed =>
    rw [List.cons_append, closing_cons, if_pos quote,
      stringEnd?_trailed (isBlank_of_isQuote quote) blanks, unclosed]
  | case3 depth c rest quote stop closed ih =>
    have bound := (stringEnd?_le closed).2
    rw [List.cons_append, closing_cons, if_pos quote,
      stringEnd?_trailed (isBlank_of_isQuote quote) blanks, closed]
    simp only [List.drop_append_of_le_length bound, ih]
  | case4 depth rest quote ih => rw [List.cons_append, closing_cons, if_neg quote, if_pos rfl, ih]
  | case5 rest quote apart =>
    rw [List.cons_append, closing_cons, if_neg quote, if_neg apart, if_pos rfl]
  | case6 rest outer quote apart ih =>
    rw [List.cons_append, closing_cons, if_neg quote, if_neg apart, if_pos rfl]
    simp only [ih]
  | case7 depth c rest quote opening other ih =>
    rw [List.cons_append, closing_cons, if_neg quote, if_neg opening, if_neg other, ih]

end Bracket

/-! ### Parts of a line -/

namespace Lexer

open Text (Blanks Indents isBlank isIndent)

/-- The cursor in a line that goes on with more text. -/
def Cursor.trailed (tail : Text) (cursor : Cursor) : Cursor := ⟨cursor.column, cursor.rest ++ tail⟩

variable {tail : Text} {cursor : Cursor}

theorem piece_trailed {count : Nat} (within : count ≤ cursor.rest.length) (kind : TokenKind) :
    (cursor.trailed tail).piece kind count = cursor.piece kind count := by
  simp [Cursor.piece, Cursor.trailed, List.take_append_of_le_length within]

theorem advance_trailed {count : Nat} (within : count ≤ cursor.rest.length) :
    (cursor.trailed tail).advance count = (cursor.advance count).trailed tail := by
  simp [Cursor.advance, Cursor.trailed, List.drop_append_of_le_length within]

theorem remainder_trailed (blanks : Blanks tail) (kind : TokenKind) :
    (cursor.trailed tail).remainder kind = cursor.remainder kind := by
  simp [Cursor.remainder, Cursor.trailed, Text.trimRight_append blanks]

theorem takeWhile_trailed (blanks : Blanks tail) {test : Char → Bool}
    (stops : ∀ c, isBlank c = true → test c = false) (cursor : Cursor) :
    (cursor.trailed tail).rest.takeWhile test = cursor.rest.takeWhile test :=
  Markup.takeWhile_append_closing fun c member => stops c (blanks c member)

theorem length_takeWhile_le (test : Char → Bool) (text : Text) :
    (text.takeWhile test).length ≤ text.length := (List.takeWhile_prefix test).length_le

theorem nameLength_trailed (blanks : Blanks tail) (cursor : Cursor) :
    nameLength (cursor.trailed tail).rest = nameLength cursor.rest := by
  rw [nameLength, nameLength, takeWhile_trailed blanks fun c => Text.isNameChar_of_isBlank]

/-- What was read from a line that goes on. -/
def carried {α : Type} (tail : Text) (found : α × Cursor) : α × Cursor :=
  (found.1, found.2.trailed tail)

theorem value_bracket {rest : Text} (shape : cursor.rest = '{' :: rest) :
    value cursor =
      match Bracket.stop cursor.rest with
      | .ok stop => .ok (cursor.piece .bracketExpression stop, cursor.advance stop)
      | .error fault => .error (placed cursor.column fault) := by
  rw [value, shape]
  rfl

theorem value_name (other : cursor.rest.head? ≠ some '{') :
    value cursor =
      if nameLength cursor.rest = 0 then .error ⟨.nameExpected, cursor.column⟩
      else .ok (cursor.piece .string (nameLength cursor.rest),
        cursor.advance (nameLength cursor.rest)) := by
  rw [value]
  split
  next shape => simp [shape] at other
  next => rfl

theorem stop_le {text : Text} {stop : Nat} (found : Bracket.stop ('{' :: text) = .ok stop) :
    stop ≤ text.length + 1 := by
  obtain ⟨count, closed, rfl⟩ := Bracket.shift_eq_ok found
  obtain ⟨inner, after, same, rfl⟩ := Bracket.closing_brace closed
  have same : text = inner ++ '}' :: after := same
  simp [same]

theorem value_trailed (blanks : Blanks tail) (cursor : Cursor) :
    value (cursor.trailed tail) = (value cursor).map (carried tail) := by
  by_cases brace : cursor.rest.head? = some '{'
  next =>
    obtain ⟨rest, shape⟩ := List.head?_eq_some_iff.mp brace
    have longer : (cursor.trailed tail).rest = '{' :: (rest ++ tail) := by
      simp [Cursor.trailed, shape]
    have same : Bracket.stop (cursor.trailed tail).rest = Bracket.stop cursor.rest := by
      rw [longer, shape, Bracket.stop, Bracket.stop]
      exact congrArg _ (Bracket.closing_trailed blanks 0 rest)
    rw [value_bracket longer, value_bracket shape, same]
    cases read : Bracket.stop cursor.rest with
    | error fault => rfl
    | ok stop =>
      have within : stop ≤ cursor.rest.length := by
        rw [shape] at read ⊢
        exact stop_le read
      simp only [piece_trailed within, advance_trailed within]
      rfl
  next =>
    have other : (cursor.trailed tail).rest.head? ≠ some '{' :=
      fun same => brace ((Text.head?_trailed blanks (by decide)).mp same)
    have within := length_takeWhile_le isNameChar cursor.rest
    rw [value_name brace, value_name other, nameLength_trailed blanks]
    by_cases empty : nameLength cursor.rest = 0
    next =>
      rw [if_pos empty, if_pos empty]
      rfl
    next =>
      rw [if_neg empty, if_neg empty]
      simp only [nameLength, piece_trailed within, advance_trailed within]
      rfl

theorem attributeName?_bracket {rest : Text} (shape : cursor.rest = '{' :: rest) :
    attributeName? cursor = (do
      let (name, after) ← value cursor
      return if after.rest.head? = some '=' then some (name, after) else none) := by
  rw [attributeName?, shape]
  rfl

theorem attributeName?_name (other : cursor.rest.head? ≠ some '{') :
    attributeName? cursor =
      .ok (if nameLength cursor.rest ≠ 0 ∧
          (cursor.advance (nameLength cursor.rest)).rest.head? = some '=' then
        some (cursor.piece .string (nameLength cursor.rest),
          cursor.advance (nameLength cursor.rest))
      else none) := by
  rw [attributeName?]
  split
  next shape => simp [shape] at other
  next => rfl

theorem attributeName?_equals {name : Piece} {connector : Cursor}
    (named : attributeName? cursor = .ok (some (name, connector))) :
    connector.rest.head? = some '=' :=
  (Markup.cuts_attributeName (List.forall_mem_nil _) (List.append_nil _).symm named).2

theorem attributeName?_trailed (blanks : Blanks tail) (cursor : Cursor) :
    attributeName? (cursor.trailed tail) =
      (attributeName? cursor).map (Option.map (carried tail)) := by
  have equals (after : Cursor) :
      (after.trailed tail).rest.head? = some '=' ↔ after.rest.head? = some '=' :=
    Text.head?_trailed blanks (by decide)
  by_cases brace : cursor.rest.head? = some '{'
  next =>
    obtain ⟨rest, shape⟩ := List.head?_eq_some_iff.mp brace
    have longer : (cursor.trailed tail).rest = '{' :: (rest ++ tail) := by
      simp [Cursor.trailed, shape]
    rw [attributeName?_bracket longer, attributeName?_bracket shape, value_trailed blanks]
    cases value cursor with
    | error fault => rfl
    | ok found =>
      obtain ⟨name, after⟩ := found
      by_cases follows : after.rest.head? = some '=' <;>
        simp [Except.map, carried, equals, follows, pure, Except.pure]
  next =>
    have other : (cursor.trailed tail).rest.head? ≠ some '{' :=
      fun same => brace ((Text.head?_trailed blanks (by decide)).mp same)
    have within : nameLength cursor.rest ≤ cursor.rest.length := length_takeWhile_le ..
    rw [attributeName?_name brace, attributeName?_name other, nameLength_trailed blanks,
      piece_trailed within, advance_trailed within]
    by_cases named : nameLength cursor.rest ≠ 0 ∧
        (cursor.advance (nameLength cursor.rest)).rest.head? = some '=' <;>
      simp [Except.map, carried, equals, named]

theorem attributeValue_quoted {rest : Text} (shape : cursor.rest = '"' :: rest) :
    attributeValue cursor =
      match Bracket.stringEnd? '"' rest with
      | some stop => .ok (cursor.piece .quotedString (stop + 1), cursor.advance (stop + 1))
      | none => .error ⟨.unterminatedString, cursor.column⟩ := by
  rw [attributeValue, shape]
  rfl

theorem attributeValue_bracket {rest : Text} (shape : cursor.rest = '{' :: rest) :
    attributeValue cursor = value cursor := by
  rw [attributeValue, shape]
  rfl

theorem attributeValue_plain (unquoted : cursor.rest.head? ≠ some '"')
    (other : cursor.rest.head? ≠ some '{') :
    attributeValue cursor =
      if (cursor.rest.takeWhile (!Text.isBlank ·)).length = 0 then
        .error ⟨.attributeValueExpected, cursor.column⟩
      else .ok (cursor.piece .string (cursor.rest.takeWhile (!Text.isBlank ·)).length,
        cursor.advance (cursor.rest.takeWhile (!Text.isBlank ·)).length) := by
  rw [attributeValue]
  split
  next shape => simp [shape] at unquoted
  next shape => simp [shape] at other
  next => rfl

theorem attributeValue_trailed (blanks : Blanks tail) (cursor : Cursor) :
    attributeValue (cursor.trailed tail) = (attributeValue cursor).map (carried tail) := by
  by_cases quote : cursor.rest.head? = some '"'
  next =>
    obtain ⟨rest, shape⟩ := List.head?_eq_some_iff.mp quote
    have longer : (cursor.trailed tail).rest = '"' :: (rest ++ tail) := by
      simp [Cursor.trailed, shape]
    rw [attributeValue_quoted longer, attributeValue_quoted shape,
      Bracket.stringEnd?_trailed (by decide) blanks]
    cases read : Bracket.stringEnd? '"' rest with
    | none => rfl
    | some stop =>
      have within : stop + 1 ≤ cursor.rest.length := by
        rw [shape]
        exact Nat.succ_le_succ (Bracket.stringEnd?_le read).2
      simp only [piece_trailed within, advance_trailed within]
      rfl
  next =>
    have unquoted : (cursor.trailed tail).rest.head? ≠ some '"' :=
      fun same => quote ((Text.head?_trailed blanks (by decide)).mp same)
    by_cases brace : cursor.rest.head? = some '{'
    next =>
      obtain ⟨rest, shape⟩ := List.head?_eq_some_iff.mp brace
      have longer : (cursor.trailed tail).rest = '{' :: (rest ++ tail) := by
        simp [Cursor.trailed, shape]
      rw [attributeValue_bracket longer, attributeValue_bracket shape, value_trailed blanks]
    next =>
      have other : (cursor.trailed tail).rest.head? ≠ some '{' :=
        fun same => brace ((Text.head?_trailed blanks (by decide)).mp same)
      have run : (cursor.trailed tail).rest.takeWhile (!Text.isBlank ·) =
          cursor.rest.takeWhile (!Text.isBlank ·) := by
        apply takeWhile_trailed blanks
        exact fun c blank => by simp [blank]
      have within := length_takeWhile_le (!Text.isBlank ·) cursor.rest
      rw [attributeValue_plain quote brace, attributeValue_plain unquoted other, run]
      by_cases empty : (cursor.rest.takeWhile (!Text.isBlank ·)).length = 0
      next =>
        rw [if_pos empty, if_pos empty]
        rfl
      next =>
        rw [if_neg empty, if_neg empty, piece_trailed within, advance_trailed within]
        rfl

/-! ### Blanks to skip -/

theorem skipIndent_indents (indents : Indents cursor.rest) : cursor.skipIndent.rest = [] := by
  have all : cursor.rest.takeWhile isIndent = cursor.rest := List.takeWhile_eq_self_iff.mpr indents
  rw [Cursor.skipIndent, all]
  exact List.drop_length

theorem indents_of_skipIndent (empty : cursor.skipIndent.rest = []) : Indents cursor.rest := by
  have whole : cursor.rest.length ≤ (cursor.rest.takeWhile isIndent).length :=
    List.drop_eq_nil_iff.mp empty
  have same := (List.takeWhile_prefix isIndent).eq_of_length_le whole
  exact List.takeWhile_eq_self_iff.mp same

/-- What goes on behind a character that does not indent does not indent. -/
theorem margin_trailed {text : Text} (more : ¬Indents text) :
    (text ++ tail).takeWhile isIndent = text.takeWhile isIndent := by
  have short : (text.takeWhile isIndent).length ≠ text.length := by
    intro whole
    apply more
    exact List.takeWhile_eq_self_iff.mp ((List.takeWhile_prefix isIndent).eq_of_length whole)
  rw [List.takeWhile_append, if_neg short]

theorem skipIndent_trailed (more : ¬Indents cursor.rest) :
    (cursor.trailed tail).skipIndent = cursor.skipIndent.trailed tail := by
  have same : (cursor.trailed tail).rest.takeWhile isIndent = cursor.rest.takeWhile isIndent :=
    margin_trailed more
  rw [Cursor.skipIndent, Cursor.skipIndent, same, advance_trailed (length_takeWhile_le ..)]

theorem indents_trailed (indents : Indents tail) (blank : Indents cursor.rest) :
    Indents (cursor.trailed tail).rest := List.forall_mem_append.mpr ⟨blank, indents⟩

theorem attribute?_blanks (blanks : Blanks cursor.rest) : attribute? cursor = .ok none := by
  have left : Blanks cursor.skipIndent.rest := fun c member =>
    blanks c ((List.drop_sublist ..).mem member)
  have unopened : cursor.skipIndent.rest.head? ≠ some '{' := by
    intro brace
    exact Bool.false_ne_true (left '{' (List.mem_of_mem_head? brace))
  have unnamed : nameLength cursor.skipIndent.rest = 0 := by
    cases rest : cursor.skipIndent.rest with
    | nil => rfl
    | cons c others =>
      rw [rest] at left
      simp [nameLength, Text.isNameChar_of_isBlank left.of_cons.1]
  have none : attributeName? cursor.skipIndent = .ok none := by
    rw [attributeName?_name unopened]
    simp [unnamed]
  rw [attribute?, none]
  rfl

theorem attribute?_trailed (blanks : Blanks tail) (cursor : Cursor) :
    attribute? (cursor.trailed tail) = (attribute? cursor).map (Option.map (carried tail)) := by
  by_cases blank : Indents cursor.rest
  next =>
    have longer : Blanks (cursor.trailed tail).rest :=
      List.forall_mem_append.mpr ⟨blank.blanks, blanks⟩
    rw [attribute?_blanks blank.blanks, attribute?_blanks longer]
    rfl
  next =>
    rw [attribute?, attribute?, skipIndent_trailed blank, attributeName?_trailed blanks]
    cases named : attributeName? cursor.skipIndent with
    | error fault => rfl
    | ok found =>
      cases found with
      | none => rfl
      | some found =>
        obtain ⟨name, connector⟩ := found
        have equals := attributeName?_equals named
        have within : 1 ≤ connector.rest.length := by
          obtain ⟨rest, shape⟩ := List.head?_eq_some_iff.mp equals
          simp [shape]
        simp only [Except.map, Option.map_some, carried, Outcome.ok_bind, advance_trailed within,
          piece_trailed within, attributeValue_trailed blanks]
        cases attributeValue (connector.advance 1) <;> rfl

theorem attributes_trailed (blanks : Blanks tail) (cursor : Cursor) :
    attributes (cursor.trailed tail) = (attributes cursor).map (carried tail) := by
  induction size : cursor.rest.length using Nat.strongRecOn generalizing cursor with
  | ind size ih =>
    rw [attributes, attributes, attribute?_trailed blanks]
    cases attribute? cursor with
    | error fault => rfl
    | ok found =>
      cases found with
      | none => rfl
      | some found =>
        obtain ⟨first, after⟩ := found
        have order : (after.trailed tail).rest.length < (cursor.trailed tail).rest.length ↔
            after.rest.length < cursor.rest.length := by
          simp [Cursor.trailed]
        simp only [Except.map, Option.map_some, carried, Outcome.ok_bind, order]
        by_cases shorter : after.rest.length < cursor.rest.length
        next =>
          simp only [shorter, if_true, ih _ (size ▸ shorter) after rfl]
          cases attributes after <;> rfl
        next => simp [shorter, pure, Except.pure]

theorem sign_trailed {mark : Char} (inside : isBlank mark = false) (blanks : Blanks tail)
    (kind : TokenKind) (cursor : Cursor) :
    sign mark kind (cursor.trailed tail) = (sign mark kind cursor).map (carried tail) := by
  have comes : (cursor.trailed tail).rest.head? = some mark ↔ cursor.rest.head? = some mark :=
    Text.head?_trailed blanks inside
  rw [sign, sign]
  by_cases here : cursor.rest.head? = some mark
  next =>
    have within : 1 ≤ cursor.rest.length := by
      obtain ⟨rest, shape⟩ := List.head?_eq_some_iff.mp here
      simp [shape]
    rw [if_pos here, if_pos (comes.mpr here), advance_trailed within, piece_trailed within,
      value_trailed blanks]
    cases value (cursor.advance 1) <;> rfl
  next =>
    rw [if_neg here, if_neg fun same => here (comes.mp same)]
    rfl

/-! ### Contents -/

/-- The piece without its place, if it is the rest of a line and there is none. -/
def Piece.settled (piece : Piece) : Piece :=
  if (piece.kind = .expression ∨ piece.kind = .comment) ∧ piece.content = [] then
    { piece with column := 0 }
  else piece

theorem trimRight_blanks {text : Text} (blanks : Blanks text) : Text.trimRight text = [] := by
  rw [← List.nil_append text, Text.trimRight_append blanks]
  rfl

theorem signAndRest_trailed (indents : Indents tail) (within : 1 ≤ cursor.rest.length)
    (identifier : TokenKind) {kind : TokenKind} (rest : kind = .expression ∨ kind = .comment) :
    (signAndRest identifier kind (cursor.trailed tail)).map Piece.settled =
      (signAndRest identifier kind cursor).map Piece.settled := by
  rw [signAndRest, signAndRest, piece_trailed within, advance_trailed within, List.map_cons,
    List.map_cons]
  congr 2
  by_cases blank : Indents (cursor.advance 1).rest
  next =>
    have empty := skipIndent_indents blank
    have also := skipIndent_indents (indents_trailed indents blank)
    simp [Piece.settled, Cursor.remainder, rest, empty, also, Text.trimRight, Text.dropRightWhile]
  next => rw [skipIndent_trailed blank, remainder_trailed indents.blanks]

theorem docType_trailed (indents : Indents tail) (within : 3 ≤ cursor.rest.length) :
    docType (cursor.trailed tail) = docType cursor := by
  rw [docType, docType, piece_trailed within, advance_trailed within]
  by_cases blank : Indents (cursor.advance 3).rest
  next =>
    have empty := skipIndent_indents blank
    have also := skipIndent_indents (indents_trailed indents blank)
    simp [Cursor.remainder, empty, also, Text.trimRight, Text.dropRightWhile]
  next => rw [skipIndent_trailed blank, remainder_trailed indents.blanks]

/-- Pieces that are the same but for places without content. -/
def settledAll (outcome : Except Fault (List Piece)) : Except Fault (List Piece) :=
  outcome.map (List.map Piece.settled)

theorem inlineContent_blank (blank : Indents cursor.rest) : inlineContent cursor = .ok [] := by
  simp only [inlineContent, skipIndent_indents blank]

theorem inlineContent_code {rest : Text} (shape : cursor.skipIndent.rest = '=' :: rest) :
    inlineContent cursor = .ok (signAndRest .codeIdentifier .expression cursor.skipIndent) := by
  simp only [inlineContent, shape]

theorem inlineContent_text {c : Char} {rest : Text} (shape : cursor.skipIndent.rest = c :: rest)
    (other : c ≠ '=') :
    inlineContent cursor =
      if cursor.skipIndent.column = cursor.column then
        .error ⟨.unexpectedCharacter c, cursor.skipIndent.column⟩
      else .ok [cursor.skipIndent.remainder .text] := by
  simp only [inlineContent, shape]

theorem inlineContent_trailed (indents : Indents tail) (cursor : Cursor) :
    settledAll (inlineContent (cursor.trailed tail)) = settledAll (inlineContent cursor) := by
  by_cases blank : Indents cursor.rest
  next => rw [inlineContent_blank blank, inlineContent_blank (indents_trailed indents blank)]
  next =>
    have skipped := @skipIndent_trailed tail _ blank
    cases shape : cursor.skipIndent.rest with
    | nil => exact absurd (indents_of_skipIndent shape) blank
    | cons c rest =>
      have longer : (cursor.trailed tail).skipIndent.rest = c :: (rest ++ tail) := by
        rw [skipped, Cursor.trailed, shape]
        rfl
      by_cases code : c = '='
      next =>
        subst code
        rw [inlineContent_code shape, inlineContent_code longer, skipped]
        simp only [settledAll, Except.map]
        rw [signAndRest_trailed indents (by simp [shape]) _ (.inl rfl)]
      next =>
        rw [inlineContent_text shape code, inlineContent_text longer code, skipped,
          remainder_trailed indents.blanks]
        rfl

/-- Pieces in front of others. -/
theorem settledAll_append (front : List Piece) (outcome : Except Fault (List Piece)) :
    settledAll (do
      let content ← outcome
      return front ++ content) =
      (settledAll outcome).map (front.map Piece.settled ++ ·) := by
  cases outcome with
  | error fault => rfl
  | ok content => exact congrArg Except.ok List.map_append

theorem settledAll_bind {α : Type} {first : Except Fault (α × Cursor)}
    {next other : α × Cursor → Except Fault (List Piece)}
    (each : ∀ found, settledAll (next (carried tail found)) = settledAll (other found)) :
    settledAll (first.map (carried tail) >>= next) = settledAll (first >>= other) := by
  cases first with
  | error fault => rfl
  | ok found => exact each found

theorem tag_trailed (indents : Indents tail) (cursor : Cursor) :
    settledAll (tag (cursor.trailed tail)) = settledAll (tag cursor) := by
  rw [tag, tag, sign_trailed (by decide) indents.blanks]
  apply settledAll_bind
  intro ⟨element, cursor⟩
  simp only [carried]
  rw [sign_trailed (by decide) indents.blanks]
  apply settledAll_bind
  intro ⟨id, cursor⟩
  simp only [carried]
  rw [sign_trailed (by decide) indents.blanks]
  apply settledAll_bind
  intro ⟨classes, cursor⟩
  simp only [carried]
  rw [attributes_trailed indents.blanks]
  apply settledAll_bind
  intro ⟨pairs, cursor⟩
  simp only [carried]
  rw [settledAll_append, settledAll_append, inlineContent_trailed indents]

/-! ### Whole lines -/

/-- Whether a text begins with the sign of a document type, character by character. -/
theorem isDocType_iff (text : Text) : "!!!".toList.isPrefixOf text = true ↔
    text.head? = some '!' ∧ (text.drop 1).head? = some '!' ∧ (text.drop 2).head? = some '!' := by
  rcases text with _ | ⟨a, _ | ⟨b, _ | ⟨c, rest⟩⟩⟩ <;>
    simp [List.isPrefixOf, @eq_comm Char '!']

theorem head?_drop_trailed (blanks : Blanks tail) {c : Char} (other : isBlank c = false)
    (count : Nat) (text : Text) :
    ((text ++ tail).drop count).head? = some c ↔ (text.drop count).head? = some c := by
  rw [List.drop_append]
  apply Text.head?_trailed _ other
  exact fun c member => blanks c ((List.drop_sublist _ tail).mem member)

/-- The pieces of a line that is no document type, given the character that it begins with. -/
def signed (cursor : Cursor) : Option Char → Except Fault (List Piece)
  | some '/' => .ok (signAndRest .commentIdentifier .comment cursor)
  | some '=' => .ok (signAndRest .codeIdentifier .expression cursor)
  | some '-' => .ok (signAndRest .silentCodeIdentifier .expression cursor)
  | some '\\' => .ok [(cursor.advance 1).remainder .text]
  | some '%' => tag cursor
  | some '#' => tag cursor
  | some '.' => tag cursor
  | _ => .ok [cursor.remainder .text]

theorem construct_eq (cursor : Cursor) :
    construct cursor =
      if "!!!".toList.isPrefixOf cursor.rest then .ok (docType cursor)
      else signed cursor cursor.rest.head? := by
  unfold construct
  split
  case h_1 rest shape => simp [shape, List.isPrefixOf]
  case h_9 noDocType noComment noCode noSilent noText noElement noId noClasses =>
    have plain : ¬"!!!".toList.isPrefixOf cursor.rest = true := by
      intro starts
      obtain ⟨rest, shape⟩ := List.isPrefixOf_iff_prefix.mp starts
      exact noDocType rest shape.symm
    rw [if_neg plain]
    cases shape : cursor.rest with
    | nil => rfl
    | cons c rest =>
      rw [List.head?_cons]
      unfold signed
      split
      next same => exact absurd (Option.some.inj same ▸ shape) (noComment rest)
      next same => exact absurd (Option.some.inj same ▸ shape) (noCode rest)
      next same => exact absurd (Option.some.inj same ▸ shape) (noSilent rest)
      next same => exact absurd (Option.some.inj same ▸ shape) (noText rest)
      next same => exact absurd (Option.some.inj same ▸ shape) (noElement rest)
      next same => exact absurd (Option.some.inj same ▸ shape) (noId rest)
      next same => exact absurd (Option.some.inj same ▸ shape) (noClasses rest)
      next => rfl
  all_goals
    rename_i rest shape
    simp [shape, List.isPrefixOf, signed]

theorem isDocType_trailed (blanks : Blanks tail) (cursor : Cursor) :
    "!!!".toList.isPrefixOf (cursor.trailed tail).rest = true ↔
      "!!!".toList.isPrefixOf cursor.rest = true := by
  rw [isDocType_iff, isDocType_iff, Cursor.trailed, Text.head?_trailed blanks (by decide),
    head?_drop_trailed blanks (by decide), head?_drop_trailed blanks (by decide)]

/-- A line that begins with a blank is text. -/
theorem signed_blank {c : Char} (blank : isBlank c = true) (cursor : Cursor) :
    signed cursor (some c) = .ok [cursor.remainder .text] := by
  unfold signed
  split
  case h_8 => rfl
  all_goals
    rename_i same
    cases same
    exact absurd blank (by decide)

theorem construct_trailed (indents : Indents tail) (cursor : Cursor) :
    settledAll (construct (cursor.trailed tail)) = settledAll (construct cursor) := by
  have docTypes := isDocType_trailed indents.blanks cursor
  rw [construct_eq, construct_eq]
  by_cases starts : "!!!".toList.isPrefixOf cursor.rest = true
  next =>
    have within := (List.isPrefixOf_iff_prefix.mp starts).length_le
    rw [if_pos starts, if_pos (docTypes.mpr starts), docType_trailed indents within]
  next =>
    rw [if_neg starts, if_neg fun same => starts (docTypes.mp same)]
    cases shape : cursor.rest with
    | nil =>
      have plain : signed (cursor.trailed tail) (cursor.trailed tail).rest.head? =
          .ok [(cursor.trailed tail).remainder .text] := by
        rw [Cursor.trailed, shape, List.nil_append]
        cases tail with
        | nil => rfl
        | cons c rest => exact signed_blank indents.blanks.of_cons.1 _
      rw [plain, remainder_trailed indents.blanks]
      rfl
    | cons c rest =>
      have within : 1 ≤ cursor.rest.length := by simp [shape]
      have head : (cursor.trailed tail).rest.head? = some c := by simp [Cursor.trailed, shape]
      have note := signAndRest_trailed indents within .commentIdentifier (.inr rfl)
      have code := signAndRest_trailed indents within .codeIdentifier (.inl rfl)
      have silent := signAndRest_trailed indents within .silentCodeIdentifier (.inl rfl)
      rw [head, List.head?_cons]
      unfold signed
      split
      next => exact congrArg Except.ok note
      next => exact congrArg Except.ok code
      next => exact congrArg Except.ok silent
      next => rw [advance_trailed within, remainder_trailed indents.blanks]
      next => exact tag_trailed indents cursor
      next => exact tag_trailed indents cursor
      next => exact tag_trailed indents cursor
      next => rw [remainder_trailed indents.blanks]

/-- A line that is not blank has the pieces that it has without the blanks at its end. -/
theorem pieces_trailed (indents : Indents tail) {text : Text} (present : ¬Indents text) :
    settledAll (pieces (text ++ tail)) = settledAll (pieces text) := by
  let start : Cursor := ⟨0, text⟩
  have skipped : (start.trailed tail).skipIndent = start.skipIndent.trailed tail :=
    skipIndent_trailed present
  have margin : (start.trailed tail).piece .whiteSpace ((text ++ tail).takeWhile isIndent).length =
      start.piece .whiteSpace (text.takeWhile isIndent).length := by
    rw [margin_trailed present]
    exact piece_trailed (length_takeWhile_le ..) _
  have found := construct_trailed indents start.skipIndent
  rw [← skipped] at found
  have same := settledAll_append [start.piece .whiteSpace (text.takeWhile isIndent).length]
  have whole : settledAll (pieces (text ++ tail)) = settledAll (do
      let found ← construct (start.trailed tail).skipIndent
      return [start.piece .whiteSpace (text.takeWhile isIndent).length] ++ found) := by
    rw [← margin]
    rfl
  rw [whole, same, found, ← same]
  rfl

end Lexer

end Stencil
