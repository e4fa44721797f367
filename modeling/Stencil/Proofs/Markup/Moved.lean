import Stencil.Proofs.Markup.Lexing

/-!
Lines further down in a source. Their tokens stand elsewhere and say the same.
-/

set_option autoImplicit false

namespace Stencil

def Token.moved (lines characters : Nat) (token : Token) : Token :=
  { token with line := token.line + lines, offset := token.offset + characters }

namespace Markup

open Lexer (Piece)

variable (lines characters : Nat)

def TokenOf.moved {kinds : List TokenKind} (token : TokenOf kinds) : TokenOf kinds :=
  ⟨token.val.moved lines characters, token.property⟩

def Signed.moved {sign : TokenKind} (signed : Signed sign) : Signed sign :=
  ⟨TokenOf.moved lines characters signed.mark, TokenOf.moved lines characters signed.value⟩

def Attribute.moved (one : Attribute) : Attribute :=
  ⟨TokenOf.moved lines characters one.name, TokenOf.moved lines characters one.connector,
    TokenOf.moved lines characters one.value, one.quoted⟩

def Head.moved (head : Head) : Head where
  element := head.element.map (Signed.moved lines characters)
  id := head.id.map (Signed.moved lines characters)
  classes := head.classes.map (Signed.moved lines characters)
  attributes := head.attributes.map (Attribute.moved lines characters)
  marked := by simpa using head.marked

def Matter.moved : Matter → Matter
  | absent => absent
  | text words => text (TokenOf.moved lines characters words)
  | code sign expression =>
    code (TokenOf.moved lines characters sign) (TokenOf.moved lines characters expression)
  | silent sign statement =>
    silent (TokenOf.moved lines characters sign) (TokenOf.moved lines characters statement)
  | comment sign note =>
    comment (TokenOf.moved lines characters sign) (TokenOf.moved lines characters note)

def Form.moved : Form → Form
  | docType sign type =>
    docType (TokenOf.moved lines characters sign) (type.map (TokenOf.moved lines characters))
  | entry head matter =>
    entry (head.map (Head.moved lines characters)) (matter.moved lines characters)

def Line.moved (line : Line) : Line :=
  ⟨line.indent.map (TokenOf.moved lines characters), line.form.moved lines characters⟩

/-! ### Tokens -/

theorem Signed.tokens_moved {sign : TokenKind} (signed : Option (Signed sign)) :
    (signed.map (Signed.moved lines characters)).toList.flatMap Signed.tokens =
      (signed.toList.flatMap Signed.tokens).map (Token.moved lines characters) := by
  cases signed <;> rfl

theorem Head.tokens_moved (head : Head) :
    (head.moved lines characters).tokens = head.tokens.map (Token.moved lines characters) := by
  have pairs : (head.attributes.map (Attribute.moved lines characters)).flatMap Attribute.tokens =
      (head.attributes.flatMap Attribute.tokens).map (Token.moved lines characters) := by
    rw [List.flatMap_map, List.map_flatMap]
    rfl
  simp only [Head.tokens, Head.moved, Signed.tokens_moved, pairs, List.map_append]

theorem Matter.tokens_moved (matter : Matter) :
    (matter.moved lines characters).tokens = matter.tokens.map (Token.moved lines characters) := by
  cases matter <;> rfl

theorem Form.tokens_moved (form : Form) :
    (form.moved lines characters).tokens = form.tokens.map (Token.moved lines characters) := by
  cases form with
  | docType sign type => cases type <;> rfl
  | entry head matter =>
    have tag : (head.map (Head.moved lines characters)).toList.flatMap Head.tokens =
        (head.toList.flatMap Head.tokens).map (Token.moved lines characters) := by
      cases head with
      | none => rfl
      | some head => simp [Head.tokens_moved]
    simp only [Form.tokens, Form.moved, tag, Matter.tokens_moved, List.map_append]

theorem Line.tokens_moved (line : Line) :
    (line.moved lines characters).tokens = line.tokens.map (Token.moved lines characters) := by
  have margin : (line.indent.map (TokenOf.moved lines characters)).toList.map Subtype.val =
      (line.indent.toList.map Subtype.val).map (Token.moved lines characters) := by
    cases line.indent <;> rfl
  simp only [Line.tokens, Line.moved, margin, Form.tokens_moved, List.map_append]

@[simp] theorem Line.depth_moved (line : Line) : (line.moved lines characters).depth = line.depth := by
  simp only [Line.depth, Line.moved, Option.map_map]
  rfl

theorem flatMap_tokens_moved (all : List Line) :
    (all.map (Line.moved lines characters)).flatMap Line.tokens =
      (all.flatMap Line.tokens).map (Token.moved lines characters) := by
  rw [List.flatMap_map, List.map_flatMap]
  simp only [Line.tokens_moved]

/-! ### Reading -/

variable {lines characters} {first : Bool} {row : Row} {line : Line}

def Row.moved (lines characters : Nat) (row : Row) : Row :=
  ⟨row.number + lines, row.offset + characters, row.text⟩

theorem moved_at (piece : Piece) (number offset : Nat) :
    (piece.at number offset).moved lines characters =
      piece.at (number + lines) (offset + characters) := by
  simp only [Token.moved, Piece.at, Token.mk.injEq, true_and]
  omega

theorem place_moved {tokens : List Token} (number offset : Nat) {text : Text}
    (found : Lexer.place number offset first text = .ok tokens) :
    Lexer.place (number + lines) (offset + characters) first text =
      .ok (tokens.map (Token.moved lines characters)) := by
  unfold Lexer.place at found ⊢
  split at found
  next =>
    cases found
    rw [List.map_map]
    simp only [Function.comp_def, moved_at]
  next => cases found

/-- Behind another line a line that is indented is as it would be without it. -/
theorem place_indented {row : Row} (deep : 0 < row.depth) (first : Bool) :
    Lexer.place row.number row.offset first row.text =
      Lexer.place row.number row.offset false row.text := by
  have margin : row.margin.content ≠ [] := by
    rw [← List.length_pos_iff, row.length_margin]
    exact deep
  rw [Lexer.place, Lexer.place, Row.pieces_text]
  cases Lexer.construct row.cursor with
  | error fault => rfl
  | ok found => simp [Outcome.ok_bind, pure, Except.pure, Lexer.shown, margin]

theorem Row.Shows.moved {form : Form} (shows : row.Shows form) :
    (row.moved lines characters).Shows (form.moved lines characters) := by
  have spoken : (form.moved lines characters).tokens ≠ [] := by
    simpa [Form.tokens_moved] using shows.spoken
  obtain ⟨docType, silent, tagged, mayOpen, -⟩ := shows
  cases form with
  | docType sign type =>
    refine ⟨⟨docType.1, ?_, ?_⟩, silent, tagged, mayOpen, spoken⟩
    · have same : sign.val.moved lines characters = (row.moved lines characters).docTypeSign := by
        rw [docType.2.1]
        simp only [Token.moved, Row.docTypeSign, Row.moved, Row.depth, Token.mk.injEq, true_and]
        omega
      exact same
    · rw [Option.map_map]
      exact docType.2.2
  | entry head matter =>
    refine ⟨docType, ?_, ?_, ?_, spoken⟩
    · rw [show (row.moved lines characters).silent? = row.silent? from rfl, ← silent]
      cases matter <;> rfl
    · rw [show (row.moved lines characters).isTagged = row.isTagged from rfl, ← tagged]
      cases head <;> rfl
    · rw [show (row.moved lines characters).mayOpen = row.mayOpen from rfl, ← mayOpen]
      cases head <;> cases matter <;> rfl

theorem Reads.behind (reads : Reads first row line) (deep : 0 < row.depth) :
    Reads false row line where
  placed := by
    have placed := reads.placed
    rwa [place_indented deep] at placed
  depth := reads.depth
  indented := by
    have indented := reads.indented
    have present : (row.depth == 0) = false := beq_false_of_ne (Nat.ne_of_gt deep)
    rwa [present, Bool.and_false] at indented
  shows := reads.shows

theorem Reads.moved (reads : Reads false row line) :
    Reads false (row.moved lines characters) (line.moved lines characters) where
  placed := by
    rw [Line.tokens_moved]
    exact place_moved row.number row.offset reads.placed
  depth := by
    rw [Line.depth_moved, reads.depth]
    rfl
  indented := by simpa [Line.moved] using reads.indented
  shows := reads.shows.moved

/-- Lines of which the first is indented are the same behind others. -/
theorem ReadsAll.behind {rows : List Row} {found : List Line} (reads : ReadsAll first rows found)
    (deep : ∀ row ∈ rows.head?, 0 < row.depth) : ReadsAll false rows found := by
  cases reads with
  | nil => exact .nil false
  | cons one others => exact .cons (one.behind (deep _ rfl)) others

theorem ReadsAll.moved {rows : List Row} {found : List Line} (reads : ReadsAll false rows found) :
    ReadsAll false (rows.map (Row.moved lines characters))
      (found.map (Line.moved lines characters)) := by
  generalize behind : false = first at reads
  induction reads with
  | nil => exact .nil _
  | cons one _ ih =>
    subst behind
    exact .cons one.moved (ih rfl)

/-! ### Rows -/

theorem rowsFrom_moved (number offset : Nat) (found : List Text.Line) :
    rowsFrom (number + lines) (offset + characters) found =
      (rowsFrom number offset found).map (Row.moved lines characters) := by
  induction found generalizing number offset with
  | nil => rfl
  | cons one rest ih =>
    have later := ih (number + 1) (offset + one.whole.length)
    have count : number + 1 + lines = number + lines + 1 := by omega
    have start : offset + one.whole.length + characters =
        offset + characters + one.whole.length := by omega
    rw [count, start] at later
    rw [rowsFrom, rowsFrom, later]
    by_cases blank : Text.allBlank (Lexer.content one)
    next => simp only [blank, if_true]
    next => simp [blank, Row.moved]

end Markup

end Stencil
