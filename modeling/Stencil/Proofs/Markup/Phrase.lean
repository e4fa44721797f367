import Stencil.Proofs.Markup.Trailing

/-!
What a line says, without the places of its tokens, and how it is written with no more blanks than
it needs. What is written so says the same again.
-/

set_option autoImplicit false

namespace Stencil

/-! ### Brackets and strings, whatever follows them -/

namespace Bracket

theorem stringEnd?_inside {quote : Char} (plain : quote ≠ '\\') {body : Text}
    (inside : Text.isInside quote body = true) (follow : Text) :
    stringEnd? quote (body ++ quote :: follow) = some (body.length + 1) := by
  fun_induction Text.isInside quote body with
  | case1 => rw [List.nil_append, stringEnd?_cons plain, if_pos rfl]; rfl
  | case2 => cases inside
  | case3 c rest ih =>
    rw [List.cons_append, List.cons_append, stringEnd?, ih inside]
    rfl
  | case4 c rest lone pair ih =>
    simp only [Bool.and_eq_true, bne_iff_ne, ne_eq] at inside
    rw [List.cons_append, stringEnd?_cons (Text.plain_of_alone lone pair), if_neg inside.1,
      ih inside.2]
    rfl

theorem stringEnd?_take {quote : Char} (plain : quote ≠ '\\') {text : Text} {stop : Nat}
    (found : stringEnd? quote text = some stop) (follow : Text) :
    stringEnd? quote (text.take stop ++ follow) = some stop := by
  obtain ⟨body, rest, rfl, rfl, inside⟩ := Text.isInside_of_stringEnd? found
  have taken : (body ++ quote :: rest).take (body.length + 1) = body ++ [quote] := by
    simp [List.take_append, List.take_of_length_le (Nat.le_succ body.length)]
  rw [taken, List.append_assoc]
  exact stringEnd?_inside plain inside follow

/-- Where the brace is closed depends on nothing behind it. -/
theorem closing_take {depth stop : Nat} {text : Text} (found : closing depth text = .ok stop)
    (follow : Text) : closing depth (text.take stop ++ follow) = .ok stop := by
  fun_induction closing depth text generalizing stop with
  | case1 => cases found
  | case2 => cases found
  | case3 depth c rest quote length string ih =>
    obtain ⟨count, closed, rfl⟩ := shift_eq_ok found
    have plain : c ≠ '\\' := by
      rintro rfl
      cases quote
    have bound := (stringEnd?_le string).2
    have taken : (c :: rest).take (count + (length + 1)) ++ follow =
        c :: (rest.take length ++ ((rest.drop length).take count ++ follow)) := by
      rw [← Nat.add_assoc, List.take_succ_cons, Nat.add_comm, List.take_add, List.cons_append,
        List.append_assoc]
    have dropped (more : Text) : (rest.take length ++ more).drop length = more := by
      rw [List.drop_append, List.drop_take, List.length_take, Nat.min_eq_left bound]
      simp
    rw [taken, closing_cons, if_pos quote, stringEnd?_take plain string]
    simp only [dropped, ih closed]
    rfl
  | case4 depth rest quote ih =>
    obtain ⟨count, closed, rfl⟩ := shift_eq_ok found
    rw [List.take_succ_cons, List.cons_append, closing_cons, if_neg quote, if_pos rfl, ih closed]
    rfl
  | case5 rest quote apart =>
    cases found
    rw [List.take_succ_cons, List.cons_append, closing_cons, if_neg quote, if_neg apart, if_pos rfl]
  | case6 rest outer quote apart ih =>
    obtain ⟨count, closed, rfl⟩ := shift_eq_ok found
    rw [List.take_succ_cons, List.cons_append, closing_cons, if_neg quote, if_neg apart, if_pos rfl]
    simp only [ih closed]
    rfl
  | case7 depth c rest quote opening other ih =>
    obtain ⟨count, closed, rfl⟩ := shift_eq_ok found
    rw [List.take_succ_cons, List.cons_append, closing_cons, if_neg quote, if_neg opening,
      if_neg other, ih closed]
    rfl

end Bracket

/-! ### Blanks around a text -/

namespace Text

/-- Text with no blanks to skip and none to leave out. -/
structure Snug (text : Text) : Prop where
  begins : ∀ c ∈ text.head?, isIndent c = false
  ends : trimRight text = text

theorem trimRight_trimRight (text : Text) : trimRight (trimRight text) = trimRight text := by
  obtain ⟨tail, same, blank⟩ := trimRight_split text
  conv => rhs; rw [same, trimRight_append blank]

theorem head?_dropWhile_not (test : Char → Bool) (text : Text) :
    ∀ c ∈ (text.dropWhile test).head?, test c = false := by
  induction text with
  | nil => simp
  | cons c rest ih =>
    rw [List.dropWhile_cons]
    split
    next => exact ih
    next stays => simpa using stays

theorem head?_trimRight {text : Text} {c : Char} (first : c ∈ (trimRight text).head?) :
    c ∈ text.head? := by
  obtain ⟨tail, same, _⟩ := trimRight_split text
  obtain ⟨rest, shape⟩ := List.head?_eq_some_iff.mp first
  rw [same, shape]
  rfl

/-- The rest of a line behind the blanks is snug. -/
theorem snug_remainder (text : Text) : Snug (trimRight (text.dropWhile isIndent)) where
  begins := fun c first => head?_dropWhile_not isIndent text c (head?_trimRight first)
  ends := trimRight_trimRight _

end Text

/-! ### Phrases -/

abbrev Said := TokenKind × Text

def Token.said (token : Token) : Said := (token.kind, token.content)

namespace Lexer

open Text (Snug isIndent isBlank)

def Piece.said (piece : Piece) : Said := (piece.kind, piece.content)

/-- A name, or an expression in brackets. -/
inductive Word : Said → Prop where
  | bracket {inner : Text} (closed : Bracket.closing 0 inner = .ok inner.length) :
      Word (.bracketExpression, '{' :: inner)
  | name {text : Text} (present : text ≠ []) (chars : ∀ c ∈ text, isNameChar c = true) :
      Word (.string, text)

/-- The value of an attribute. -/
inductive Value : Said → Prop where
  | bracket {inner : Text} (closed : Bracket.closing 0 inner = .ok inner.length) :
      Value (.bracketExpression, '{' :: inner)
  | quoted {body : Text} (inside : Text.isInside '"' body = true) :
      Value (.quotedString, '"' :: (body ++ ['"']))
  | run {text : Text} (present : text ≠ []) (chars : ∀ c ∈ text, isBlank c = false)
      (unquoted : text.head? ≠ some '"') (plain : text.head? ≠ some '{') : Value (.string, text)

inductive Marked (mark : Char) (kind : TokenKind) : List Said → Prop where
  | absent : Marked mark kind []
  | present {word : Said} (legal : Word word) : Marked mark kind [(kind, [mark]), word]

inductive Pairs : List Said → Prop where
  | nil : Pairs []
  | cons {name value : Said} {rest : List Said} (named : Word name) (valued : Value value)
      (others : Pairs rest) : Pairs (name :: (.attributeConnector, ['=']) :: value :: rest)

/-- What stands behind a tag. A text there is neither code nor does an attribute begin with it. -/
inductive Inline : List Said → Prop where
  | absent : Inline []
  | code {text : Text} (snug : Snug text) : Inline [(.codeIdentifier, ['=']), (.expression, text)]
  | text {c : Char} {rest : Text} (snug : Snug (c :: rest)) (other : c ≠ '=')
      (unnamed : ∀ column, attributeName? ⟨column, c :: rest⟩ = .ok none) :
      Inline [(.text, c :: rest)]

/-- What a line says behind its indentation. -/
inductive Phrase : List Said → Prop where
  | docType : Phrase [(.docTypeIdentifier, "!!!".toList)]
  | named {text : Text} (present : text ≠ []) (snug : Snug text) :
      Phrase [(.docTypeIdentifier, "!!!".toList), (.docType, text)]
  | comment {text : Text} (snug : Snug text) :
      Phrase [(.commentIdentifier, ['/']), (.comment, text)]
  | code {text : Text} (snug : Snug text) :
      Phrase [(.codeIdentifier, ['=']), (.expression, text)]
  | silent {text : Text} (snug : Snug text) :
      Phrase [(.silentCodeIdentifier, ['-']), (.expression, text)]
  | text {text : Text} (trimmed : Text.trimRight text = text) : Phrase [(.text, text)]
  | tag {element id classes pairs inline : List Said}
      (named : Marked '%' .elementIdentifier element)
      (marked : Marked '#' .elementIdIdentifier id)
      (sorted : Marked '.' .elementClassIdentifier classes)
      (present : element ++ id ++ classes ≠ []) (paired : Pairs pairs) (behind : Inline inline) :
      Phrase (element ++ id ++ classes ++ pairs ++ inline)

/-! ### Writing -/

/-- Whether a line begins behind such a token. -/
def begins : Option TokenKind → Bool
  | none => true
  | some .whiteSpace => true
  | _ => false

/-- Whether a word belongs to such a token. -/
def joins : Option TokenKind → Bool
  | some .elementIdentifier => true
  | some .elementIdIdentifier => true
  | some .elementClassIdentifier => true
  | some .attributeConnector => true
  | _ => false

/-- What is written between two tokens. Without the backslash a text that begins a line might be
taken for a sign. -/
def gap (before : Option TokenKind) : TokenKind → Text
  | .whiteSpace => if before = none then [] else ['\n']
  | .text => if begins before then ['\\'] else [' ']
  | .codeIdentifier => if begins before then [] else [' ']
  | .docType => [' ']
  | .comment => [' ']
  | .expression => [' ']
  | .string => if joins before then [] else [' ']
  | .bracketExpression => if joins before then [] else [' ']
  | _ => []

/-- Tokens as they are written behind a token. -/
def spelled (before : Option TokenKind) : List Said → Text
  | [] => []
  | one :: rest => gap before one.1 ++ one.2 ++ spelled (some one.1) rest

def last (before : Option TokenKind) : List Said → Option TokenKind
  | [] => before
  | one :: rest => last (some one.1) rest

theorem spelled_append (before : Option TokenKind) (front back : List Said) :
    spelled before (front ++ back) = spelled before front ++ spelled (last before front) back := by
  induction front generalizing before with
  | nil => rfl
  | cons one rest ih => simp [spelled, last, ih]

theorem last_append (before : Option TokenKind) (front back : List Said) :
    last before (front ++ back) = last (last before front) back := by
  induction front generalizing before with
  | nil => rfl
  | cons one rest ih => exact ih _

/-! ### Words that are read again -/

variable {follow : Text} {column : Nat}

theorem head?_append_of_ne_nil {text : Text} (present : text ≠ []) (follow : Text) :
    (text ++ follow).head? = text.head? := by
  cases text with
  | nil => exact absurd rfl present
  | cons c rest => rfl

/-- A run of characters that what follows does not go on with. -/
theorem takeWhile_again {test : Char → Bool} {text : Text} (chars : ∀ c ∈ text, test c = true)
    (apart : ∀ c ∈ follow.head?, test c = false) : (text ++ follow).takeWhile test = text := by
  rw [List.takeWhile_append_of_pos chars]
  cases follow with
  | nil => simp
  | cons c rest => simp [apart c (by simp)]

theorem stop_again {inner : Text} (closed : Bracket.closing 0 inner = .ok inner.length)
    (follow : Text) : Bracket.stop ('{' :: (inner ++ follow)) = .ok (inner.length + 1) := by
  have again := Bracket.closing_take closed follow
  rw [List.take_length] at again
  rw [Bracket.stop, List.drop_one, List.tail_cons, again]
  rfl

theorem value_word {word : Said} (legal : Word word)
    (apart : ∀ c ∈ follow.head?, isNameChar c = false) :
    value ⟨column, word.2 ++ follow⟩ =
      .ok (⟨word.1, word.2, column⟩, ⟨column + word.2.length, follow⟩) := by
  cases legal with
  | @bracket inner closed =>
    rw [value_bracket rfl]
    simp only [List.cons_append, stop_again closed]
    simp [Cursor.piece, Cursor.advance]
  | @name text present chars =>
    have run : nameLength (text ++ follow) = text.length := by
      rw [nameLength, takeWhile_again chars apart]
    have plain : (text ++ follow).head? ≠ some '{' := by
      rw [head?_append_of_ne_nil present]
      intro brace
      exact absurd (chars _ (List.mem_of_mem_head? brace)) (by decide)
    rw [value_name plain]
    simp only [run, List.length_eq_zero_iff, present, if_false]
    simp [Cursor.piece, Cursor.advance]

theorem attributeName?_word {word : Said} (legal : Word word) (follow : Text) :
    attributeName? ⟨column, word.2 ++ '=' :: follow⟩ =
      .ok (some (⟨word.1, word.2, column⟩, ⟨column + word.2.length, '=' :: follow⟩)) := by
  have apart : ∀ c ∈ ('=' :: follow).head?, isNameChar c = false := by
    rintro c ⟨⟩
    decide
  cases legal with
  | @bracket inner closed =>
    rw [attributeName?_bracket rfl, value_word (.bracket closed) apart]
    rfl
  | @name text present chars =>
    have run : nameLength (text ++ '=' :: follow) = text.length := by
      rw [nameLength, takeWhile_again chars apart]
    have plain : (text ++ '=' :: follow).head? ≠ some '{' := by
      rw [head?_append_of_ne_nil present]
      intro brace
      exact absurd (chars _ (List.mem_of_mem_head? brace)) (by decide)
    rw [attributeName?_name plain]
    simp only [run]
    simp [Cursor.piece, Cursor.advance, present]

theorem attributeValue_value {one : Said} (legal : Value one)
    (apart : ∀ c ∈ follow.head?, isBlank c = true) :
    attributeValue ⟨column, one.2 ++ follow⟩ =
      .ok (⟨one.1, one.2, column⟩, ⟨column + one.2.length, follow⟩) := by
  cases legal with
  | @bracket inner closed =>
    rw [attributeValue_bracket rfl, value_bracket rfl]
    simp only [List.cons_append, stop_again closed]
    simp [Cursor.piece, Cursor.advance]
  | @quoted body inside =>
    have string := Bracket.stringEnd?_inside (by decide) inside follow
    rw [List.cons_append, List.append_assoc, List.singleton_append, attributeValue_quoted rfl,
      string]
    simp [Cursor.piece, Cursor.advance, List.take_append, List.drop_append,
      List.take_of_length_le (Nat.le_succ body.length)]
  | @run text present chars unquoted plain =>
    have run : (text ++ follow).takeWhile (!isBlank ·) = text := by
      apply takeWhile_again
      · exact fun c member => by rw [chars c member]; rfl
      · exact fun c first => by rw [apart c first]; rfl
    have head := head?_append_of_ne_nil present follow
    rw [attributeValue_plain (head ▸ unquoted) (head ▸ plain)]
    simp only [run, List.length_eq_zero_iff, present, if_false]
    simp [Cursor.piece, Cursor.advance]

theorem attributeName?_other {c : Char} (other : c ≠ '{') (unnamed : isNameChar c = false)
    (column : Nat) (rest : Text) : attributeName? ⟨column, c :: rest⟩ = .ok none := by
  have plain : (c :: rest).head? ≠ some '{' := fun same => other (Option.some.inj same)
  rw [attributeName?_name plain]
  simp [nameLength, unnamed]

theorem Word.begins {word : Said} (legal : Word word) :
    word.2 ≠ [] ∧ ∀ c ∈ word.2.head?, isIndent c = false := by
  cases legal with
  | bracket =>
    refine ⟨by simp, ?_⟩
    rintro c ⟨⟩
    decide
  | name present chars =>
    refine ⟨present, fun c first => eq_false_of_ne_true fun indent => ?_⟩
    have named := chars c (List.mem_of_mem_head? first)
    rw [Text.isNameChar_of_isBlank (Text.isBlank_of_isIndent indent)] at named
    cases named

/-- One blank in front of what begins with none is skipped. -/
theorem skipIndent_blank {text : Text} (begins : ∀ c ∈ text.head?, isIndent c = false) :
    (Cursor.mk column (' ' :: text)).skipIndent = ⟨column + 1, text⟩ := by
  have blank : ∀ c ∈ [' '], isIndent c = true := by simp [isIndent]
  have run : (' ' :: text).takeWhile isIndent = [' '] := takeWhile_again blank begins
  rw [Cursor.skipIndent]
  simp only [run]
  rfl

theorem attribute?_pair {name one : Said} (named : Word name) (valued : Value one)
    (apart : ∀ c ∈ follow.head?, isBlank c = true) :
    ∃ found,
      attribute? ⟨column, ' ' :: (name.2 ++ '=' :: (one.2 ++ follow))⟩ =
        .ok (some (found, ⟨column + 1 + name.2.length + 1 + one.2.length, follow⟩)) ∧
      found.map Piece.said = [name, (.attributeConnector, ['=']), one] := by
  have start : ∀ c ∈ (name.2 ++ '=' :: (one.2 ++ follow)).head?, isIndent c = false := by
    rw [head?_append_of_ne_nil named.begins.1]
    exact named.begins.2
  refine ⟨[⟨name.1, name.2, column + 1⟩,
    ⟨.attributeConnector, ['='], column + 1 + name.2.length⟩,
    ⟨one.1, one.2, column + 1 + name.2.length + 1⟩], ?_, rfl⟩
  rw [attribute?, skipIndent_blank start, attributeName?_word named]
  simp only [Outcome.ok_bind, Cursor.advance, Cursor.piece, List.drop_succ_cons, List.drop_zero,
    List.take_succ_cons, List.take_zero, attributeValue_value valued apart]
  rfl

/-- Whether a tag can go on behind a token: it has been a word or a value. -/
def Ends (before : Option TokenKind) : Prop :=
  before = some .string ∨ before = some .bracketExpression ∨ before = some .quotedString

theorem Word.ends {word : Said} (legal : Word word) : Ends (some word.1) := by
  cases legal with
  | bracket => exact .inr (.inl rfl)
  | name => exact .inl rfl

theorem Value.ends {one : Said} (legal : Value one) : Ends (some one.1) := by
  cases legal with
  | bracket => exact .inr (.inl rfl)
  | quoted => exact .inr (.inr rfl)
  | run => exact .inl rfl

theorem Ends.gap_word {before : Option TokenKind} (ends : Ends before) {word : Said}
    (legal : Word word) : gap before word.1 = [' '] := by
  rcases ends with rfl | rfl | rfl <;> cases legal <;> rfl

theorem gap_value {one : Said} (legal : Value one) : gap (some .attributeConnector) one.1 = [] := by
  cases legal <;> rfl

theorem spelled_pair {before : Option TokenKind} (ends : Ends before) {name one : Said}
    (named : Word name) (valued : Value one) (rest : List Said) :
    spelled before (name :: (.attributeConnector, ['=']) :: one :: rest) =
      ' ' :: (name.2 ++ '=' :: (one.2 ++ spelled (some one.1) rest)) := by
  have equals (kind : TokenKind) : gap (some kind) .attributeConnector = [] := rfl
  simp [spelled, ends.gap_word named, gap_value valued, equals]

theorem last_pairs {pairs : List Said} (paired : Pairs pairs) {before : Option TokenKind}
    (ends : Ends before) : Ends (last before pairs) := by
  induction paired generalizing before with
  | nil => exact ends
  | cons named valued others ih => exact ih valued.ends

/-- What pairs begin with, where something follows that is apart from a value. -/
theorem apart_pairs {pairs : List Said} (paired : Pairs pairs) {before : Option TokenKind}
    (ends : Ends before) (apart : ∀ c ∈ follow.head?, c = ' ') :
    ∀ c ∈ (spelled before pairs ++ follow).head?, c = ' ' := by
  cases paired with
  | nil => exact apart
  | cons named valued others =>
    rw [spelled_pair ends named valued]
    rintro c ⟨⟩
    rfl

theorem attributes_pairs {pairs : List Said} (paired : Pairs pairs) {before : Option TokenKind}
    (ends : Ends before) (apart : ∀ c ∈ follow.head?, c = ' ')
    (nothing : ∀ column, attribute? ⟨column, follow⟩ = .ok none) (column : Nat) :
    ∃ found last,
      attributes ⟨column, spelled before pairs ++ follow⟩ = .ok (found, ⟨last, follow⟩) ∧
      found.map Piece.said = pairs := by
  induction paired generalizing before column with
  | nil =>
    refine ⟨[], column, ?_, rfl⟩
    rw [spelled, List.nil_append, attributes, nothing]
    rfl
  | @cons name one rest named valued others ih =>
    have behind := apart_pairs others valued.ends apart
    have blank : ∀ c ∈ (spelled (some one.1) rest ++ follow).head?, isBlank c = true := by
      intro c head
      rw [behind c head]
      decide
    obtain ⟨found, first, same⟩ := @attribute?_pair _ column name one named valued blank
    obtain ⟨more, last, later, alike⟩ :=
      ih valued.ends (column + 1 + name.2.length + 1 + one.2.length)
    refine ⟨found ++ more, last, ?_, by simp [same, alike]⟩
    rw [spelled_pair ends named valued]
    simp only [List.cons_append, List.append_assoc]
    rw [attributes, first]
    simp only [Outcome.ok_bind, later]
    rw [if_pos (by simp; omega)]
    rfl

/-! ### Lines that are read again -/

def signKinds : List TokenKind :=
  [.elementIdentifier, .elementIdIdentifier, .elementClassIdentifier]

theorem gap_sign {kind : TokenKind} (sign : kind ∈ signKinds) (before : Option TokenKind) :
    gap before kind = [] := by
  simp only [signKinds, List.mem_cons, List.not_mem_nil, or_false] at sign
  rcases sign with rfl | rfl | rfl <;> rfl

theorem gap_behind {kind : TokenKind} (sign : kind ∈ signKinds) {word : Said} (legal : Word word) :
    gap (some kind) word.1 = [] := by
  simp only [signKinds, List.mem_cons, List.not_mem_nil, or_false] at sign
  rcases sign with rfl | rfl | rfl <;> cases legal <;> rfl

section Signs

variable {mark : Char} {kind : TokenKind} {said : List Said}

theorem spelled_marked (sign : kind ∈ signKinds) {word : Said} (legal : Word word)
    (before : Option TokenKind) (more : List Said) :
    spelled before ([(kind, [mark]), word] ++ more) =
      mark :: (word.2 ++ spelled (some word.1) more) := by
  simp [spelled, gap_sign sign, gap_behind sign legal]

theorem last_marked (marked : Marked mark kind said) (before : Option TokenKind) :
    said = [] ∧ last before said = before ∨ Ends (last before said) := by
  cases marked with
  | absent => exact .inl ⟨rfl, rfl⟩
  | present legal => exact .inr legal.ends

theorem apart_marked (sign : kind ∈ signKinds) (marked : Marked mark kind said)
    (before : Option TokenKind) {marks : List Char}
    (apart : ∀ c ∈ follow.head?, c ∈ marks) :
    ∀ c ∈ (spelled before said ++ follow).head?, c ∈ mark :: marks := by
  cases marked with
  | absent => exact fun c first => List.mem_cons_of_mem _ (apart c first)
  | present legal =>
    rw [← List.append_nil [_, _], spelled_marked sign legal]
    rintro c ⟨⟩
    exact List.mem_cons_self ..

theorem sign_marked (sign : kind ∈ signKinds) (marked : Marked mark kind said)
    (before : Option TokenKind) {marks : List Char} (apart : ∀ c ∈ follow.head?, c ∈ marks)
    (plain : marks.any isNameChar = false) (other : mark ∉ marks) (column : Nat) :
    ∃ found last,
      Lexer.sign mark kind ⟨column, spelled before said ++ follow⟩ = .ok (found, ⟨last, follow⟩) ∧
      found.map Piece.said = said := by
  cases marked with
  | absent =>
    refine ⟨[], column, ?_, rfl⟩
    have absent : follow.head? ≠ some mark := fun first => other (apart mark first)
    rw [spelled, List.nil_append, Lexer.sign, if_neg absent]
    rfl
  | @present word legal =>
    refine ⟨[⟨kind, [mark], column⟩, ⟨word.1, word.2, column + 1⟩],
      column + 1 + word.2.length, ?_, rfl⟩
    rw [← List.append_nil [_, _], spelled_marked sign legal, spelled, List.append_nil, Lexer.sign,
      if_pos (by rfl)]
    have read := @value_word _ (column + 1) word legal fun c first =>
      eq_false_of_ne_true (List.any_eq_false.mp plain c (apart c first))
    simp only [Cursor.advance, Cursor.piece, List.cons_append, List.drop_succ_cons, List.drop_zero,
      List.take_succ_cons, List.take_zero, read]
    rfl

end Signs

/-! ### Lines that are read again -/

theorem remainder_snug {text : Text} (snug : Snug text) (column : Nat) (kind : TokenKind) :
    (Cursor.mk column text).remainder kind = ⟨kind, text, column⟩ := by
  rw [Cursor.remainder, snug.ends]

theorem signAndRest_snug {text : Text} (snug : Snug text) (mark : Char) (column : Nat)
    (identifier kind : TokenKind) :
    (signAndRest identifier kind ⟨column, mark :: ' ' :: text⟩).map Piece.said =
      [(identifier, [mark]), (kind, text)] := by
  have skipped : ((Cursor.mk column (mark :: ' ' :: text)).advance 1).skipIndent =
      ⟨column + 1 + 1, text⟩ := skipIndent_blank snug.begins
  rw [signAndRest, skipped, remainder_snug snug]
  rfl

/-- What is written behind a tag. -/
theorem spelled_inline {before : Option TokenKind} (ends : Ends before) {inline : List Said}
    (behind : Inline inline) :
    (∀ c ∈ (spelled before inline).head?, c = ' ') ∧
      (∀ column, attribute? ⟨column, spelled before inline⟩ = .ok none) ∧
      ∀ column, ∃ found, inlineContent ⟨column, spelled before inline⟩ = .ok found ∧
        found.map Piece.said = inline := by
  cases behind with
  | absent =>
    refine ⟨by simp [spelled], fun column => attribute?_blanks (by simp [spelled, Text.Blanks]),
      fun column => ⟨[], inlineContent_blank (by simp [spelled, Text.Indents]), rfl⟩⟩
  | @code text snug =>
    have shape : spelled before [(.codeIdentifier, ['=']), (.expression, text)] =
        ' ' :: '=' :: ' ' :: text := by
      rcases ends with rfl | rfl | rfl <;> simp [spelled, gap, begins]
    have skipped (column : Nat) : (Cursor.mk column (' ' :: '=' :: ' ' :: text)).skipIndent =
        ⟨column + 1, '=' :: ' ' :: text⟩ := skipIndent_blank (by rintro c ⟨⟩; decide)
    rw [shape]
    refine ⟨by rintro c ⟨⟩; rfl, fun column => ?_, fun column => ?_⟩
    · rw [attribute?, skipped, attributeName?_other (by decide) (by decide)]
      rfl
    · have start : (Cursor.mk column (' ' :: '=' :: ' ' :: text)).skipIndent.rest =
          '=' :: ' ' :: text := by rw [skipped]
      rw [inlineContent_code start, skipped]
      exact ⟨_, rfl, signAndRest_snug snug '=' _ _ _⟩
  | @text c rest snug other unnamed =>
    have shape : spelled before [(.text, c :: rest)] = ' ' :: c :: rest := by
      rcases ends with rfl | rfl | rfl <;> simp [spelled, gap, begins]
    have skipped (column : Nat) : (Cursor.mk column (' ' :: c :: rest)).skipIndent =
        ⟨column + 1, c :: rest⟩ := skipIndent_blank snug.begins
    rw [shape]
    refine ⟨by rintro c ⟨⟩; rfl, fun column => ?_,
      fun column => ⟨[⟨.text, c :: rest, column + 1⟩], ?_, rfl⟩⟩
    · rw [attribute?, skipped, unnamed]
      rfl
    · have start : (Cursor.mk column (' ' :: c :: rest)).skipIndent.rest = c :: rest := by
        rw [skipped]
      rw [inlineContent_text start other, skipped, if_neg (by simp), remainder_snug snug]

/-- A tag that is written is read as it was. -/
theorem tag_spelled {element id classes pairs inline : List Said}
    (named : Marked '%' .elementIdentifier element) (marked : Marked '#' .elementIdIdentifier id)
    (sorted : Marked '.' .elementClassIdentifier classes) (present : element ++ id ++ classes ≠ [])
    (paired : Pairs pairs) (behind : Inline inline) (before : Option TokenKind) (column : Nat) :
    ∃ found,
      tag ⟨column, spelled before (element ++ id ++ classes ++ pairs ++ inline)⟩ = .ok found ∧
      found.map Piece.said = element ++ id ++ classes ++ pairs ++ inline := by
  have ends : Ends (last before (element ++ id ++ classes)) := by
    simp only [last_append]
    rcases last_marked sorted (last (last before element) id) with ⟨noClasses, same⟩ | ends
    · rw [same]
      rcases last_marked marked (last before element) with ⟨noId, same⟩ | ends
      · rw [same]
        rcases last_marked named before with ⟨noElement, _⟩ | ends
        · exact absurd (by simp [noClasses, noId, noElement]) present
        · exact ends
      · exact ends
    · exact ends
  obtain ⟨blank, nothing, read⟩ := spelled_inline (last_pairs paired ends) behind
  -- what each part is followed by
  have third := apart_pairs paired ends blank
  have second := apart_marked (by decide) sorted (last (last before element) id)
    fun c first => List.mem_singleton.mpr (third c first)
  have first := apart_marked (by decide) marked (last before element) second
  obtain ⟨one, between, read_element, same_element⟩ :=
    sign_marked (by decide) named before first (by decide) (by decide) column
  obtain ⟨two, between, read_id, same_id⟩ :=
    sign_marked (by decide) marked (last before element) second (by decide) (by decide) between
  obtain ⟨three, between, read_classes, same_classes⟩ :=
    sign_marked (by decide) sorted (last (last before element) id)
      (fun c head => List.mem_singleton.mpr (third c head)) (by decide) (by decide) between
  obtain ⟨four, between, read_pairs, same_pairs⟩ :=
    attributes_pairs paired ends blank nothing between
  obtain ⟨five, read_inline, same_inline⟩ := read between
  refine ⟨one ++ two ++ three ++ four ++ five, ?_, by
    simp [same_element, same_id, same_classes, same_pairs, same_inline]⟩
  simp only [last_append] at read_pairs read_inline read_classes
  simp only [spelled_append, last_append, List.append_assoc] at read_element read_id read_classes ⊢
  rw [tag, read_element]
  simp only [Outcome.ok_bind, read_id, read_classes, read_pairs, read_inline, List.append_assoc]
  rfl

theorem construct_mark {mark : Char} (other : mark ≠ '!') (column : Nat) (rest : Text) :
    construct ⟨column, mark :: rest⟩ = signed ⟨column, mark :: rest⟩ (some mark) := by
  have plain : ¬"!!!".toList.isPrefixOf (mark :: rest) = true := by
    simp [List.isPrefixOf, Ne.symm other]
  rw [construct_eq, if_neg plain, List.head?_cons]

theorem construct_docType (column : Nat) (rest : Text) :
    construct ⟨column, '!' :: '!' :: '!' :: rest⟩ =
      .ok (docType ⟨column, '!' :: '!' :: '!' :: rest⟩) := by
  rw [construct_eq, if_pos (by simp [List.isPrefixOf])]

/-- The signs that a tag begins with. -/
def tagMarks : List Char := ['%', '#', '.']

theorem construct_tag {mark : Char} (sign : mark ∈ tagMarks) (column : Nat) (rest : Text) :
    construct ⟨column, mark :: rest⟩ = tag ⟨column, mark :: rest⟩ := by
  simp only [tagMarks, List.mem_cons, List.not_mem_nil, or_false] at sign
  rcases sign with rfl | rfl | rfl <;> rw [construct_mark (by decide)] <;> rfl

/-- A tag begins with a sign. -/
theorem spelled_tag {element id classes : List Said} (named : Marked '%' .elementIdentifier element)
    (marked : Marked '#' .elementIdIdentifier id)
    (sorted : Marked '.' .elementClassIdentifier classes) (present : element ++ id ++ classes ≠ [])
    (more : List Said) (before : Option TokenKind) :
    ∃ mark ∈ tagMarks, ∃ rest,
      spelled before (element ++ id ++ classes ++ more) = mark :: rest := by
  have element : TokenKind.elementIdentifier ∈ signKinds := by decide
  have number : TokenKind.elementIdIdentifier ∈ signKinds := by decide
  have sort : TokenKind.elementClassIdentifier ∈ signKinds := by decide
  simp only [List.append_assoc]
  cases named with
  | present legal => exact ⟨'%', by decide, _, spelled_marked element legal before _⟩
  | absent =>
    cases marked with
    | present legal => exact ⟨'#', by decide, _, spelled_marked number legal before _⟩
    | absent =>
      cases sorted with
      | present legal => exact ⟨'.', by decide, _, spelled_marked sort legal before _⟩
      | absent => exact absurd rfl present

/-- What is written for a line that says something begins without a blank and says it again. -/
theorem construct_spelled {said : List Said} (phrase : Phrase said) {before : Option TokenKind}
    (starts : begins before = true) (column : Nat) :
    ∃ mark rest, spelled before said = mark :: rest ∧ isBlank mark = false ∧
      ∃ found, construct ⟨column, mark :: rest⟩ = .ok found ∧ found.map Piece.said = said := by
  cases phrase with
  | docType =>
    have shape : spelled before [(.docTypeIdentifier, "!!!".toList)] = ['!', '!', '!'] := by
      simp [spelled, gap]
    refine ⟨_, _, shape, by decide, ?_⟩
    rw [construct_docType]
    exact ⟨_, rfl, rfl⟩
  | @named text present snug =>
    have shape : spelled before [(.docTypeIdentifier, "!!!".toList), (.docType, text)] =
        '!' :: '!' :: '!' :: ' ' :: text := by
      simp [spelled, gap]
    have skipped : ((Cursor.mk column ('!' :: '!' :: '!' :: ' ' :: text)).advance 3).skipIndent =
        ⟨column + 3 + 1, text⟩ := skipIndent_blank snug.begins
    refine ⟨_, _, shape, by decide, ?_⟩
    rw [construct_docType, docType, skipped, remainder_snug snug]
    simp only [List.isEmpty_iff, present, if_false]
    exact ⟨_, rfl, rfl⟩
  | @comment text snug =>
    have shape : spelled before [(.commentIdentifier, ['/']), (.comment, text)] =
        '/' :: ' ' :: text := by simp [spelled, gap]
    refine ⟨_, _, shape, by decide, ?_⟩
    rw [construct_mark (by decide)]
    exact ⟨_, rfl, signAndRest_snug snug '/' column _ _⟩
  | @code text snug =>
    have shape : spelled before [(.codeIdentifier, ['=']), (.expression, text)] =
        '=' :: ' ' :: text := by simp [spelled, gap, starts]
    refine ⟨_, _, shape, by decide, ?_⟩
    rw [construct_mark (by decide)]
    exact ⟨_, rfl, signAndRest_snug snug '=' column _ _⟩
  | @silent text snug =>
    have shape : spelled before [(.silentCodeIdentifier, ['-']), (.expression, text)] =
        '-' :: ' ' :: text := by simp [spelled, gap]
    refine ⟨_, _, shape, by decide, ?_⟩
    rw [construct_mark (by decide)]
    exact ⟨_, rfl, signAndRest_snug snug '-' column _ _⟩
  | @text text trimmed =>
    have shape : spelled before [(.text, text)] = '\\' :: text := by simp [spelled, gap, starts]
    refine ⟨_, _, shape, by decide, ?_⟩
    rw [construct_mark (by decide)]
    refine ⟨_, rfl, ?_⟩
    simp [Cursor.remainder, Cursor.advance, Piece.said, trimmed]
  | @tag element id classes pairs inline named marked sorted present paired behind =>
    obtain ⟨mark, sign, rest, shape⟩ :=
      spelled_tag named marked sorted present (pairs ++ inline) before
    obtain ⟨found, read, same⟩ :=
      tag_spelled named marked sorted present paired behind before column
    have plain : ∀ mark ∈ tagMarks, isBlank mark = false := by simp [tagMarks, isBlank]
    rw [List.append_assoc _ pairs] at read same ⊢
    rw [shape] at read
    refine ⟨mark, rest, shape, plain mark sign, found, ?_, same⟩
    rw [construct_tag sign, read]

end Lexer

end Stencil
