import Stencil.CompileError
import Stencil.Text.Basic
import Stencil.Text.Word
import Stencil.Token

/-!
Cutting source into tokens, one line at a time. What a line gives depends on that line alone:
its number, its offset and whether an earlier line had content only place the tokens.
-/

set_option autoImplicit false

namespace Stencil.Lexer

/-- A token placed within its line; columns count from zero. -/
structure Piece where
  kind : TokenKind
  content : Text
  column : Nat
deriving DecidableEq, Repr

structure Fault where
  cause : LexicalFault
  column : Nat
deriving DecidableEq, Repr

/-- What is left of a line, and the column where it begins. -/
structure Cursor where
  column : Nat
  rest : Text

namespace Cursor

def advance (cursor : Cursor) (count : Nat) : Cursor :=
  ⟨cursor.column + count, cursor.rest.drop count⟩

def skipIndent (cursor : Cursor) : Cursor :=
  cursor.advance (cursor.rest.takeWhile Text.isIndent).length

def piece (cursor : Cursor) (kind : TokenKind) (count : Nat) : Piece :=
  ⟨kind, cursor.rest.take count, cursor.column⟩

/-- All that is left, without the blanks at its end. -/
def remainder (cursor : Cursor) (kind : TokenKind) : Piece :=
  ⟨kind, Text.trimRight cursor.rest, cursor.column⟩

theorem length_rest_advance (cursor : Cursor) (count : Nat) :
    (cursor.advance count).rest.length = cursor.rest.length - count := by
  simp [advance]

end Cursor

def isNameChar (c : Char) : Bool := Text.isWord c || c == ':' || c == '-'

def nameLength (text : Text) : Nat := (text.takeWhile isNameChar).length

def placed (column : Nat) : Bracket.Fault → Fault
  | .openString offset => ⟨.unterminatedString, column + offset⟩
  | .openBracket => ⟨.unterminatedExpression, column⟩

/-- A bracketed expression or a name, and what follows it. -/
def value (cursor : Cursor) : Except Fault (Piece × Cursor) :=
  match cursor.rest with
  | '{' :: _ =>
    match Bracket.stop cursor.rest with
    | .ok stop => .ok (cursor.piece .bracketExpression stop, cursor.advance stop)
    | .error fault => .error (placed cursor.column fault)
  | _ =>
    let length := nameLength cursor.rest
    if length = 0 then .error ⟨.nameExpected, cursor.column⟩
    else .ok (cursor.piece .string length, cursor.advance length)

/-- The name of an attribute and the cursor at its equals sign, if an attribute begins here. -/
def attributeName? (cursor : Cursor) : Except Fault (Option (Piece × Cursor)) :=
  match cursor.rest with
  | '{' :: _ => do
    let (name, after) ← value cursor
    -- Without an equals sign the expression is content and no name.
    return if after.rest.head? = some '=' then some (name, after) else none
  | _ =>
    let length := nameLength cursor.rest
    let after := cursor.advance length
    .ok (if length ≠ 0 ∧ after.rest.head? = some '=' then
      some (cursor.piece .string length, after) else none)

def attributeValue (cursor : Cursor) : Except Fault (Piece × Cursor) :=
  match cursor.rest with
  | '"' :: rest =>
    match Bracket.stringEnd? '"' rest with
    | some stop => .ok (cursor.piece .quotedString (stop + 1), cursor.advance (stop + 1))
    | none => .error ⟨.unterminatedString, cursor.column⟩
  | '{' :: _ => value cursor
  | _ =>
    let length := (cursor.rest.takeWhile (!Text.isBlank ·)).length
    if length = 0 then .error ⟨.attributeValueExpected, cursor.column⟩
    else .ok (cursor.piece .string length, cursor.advance length)

/-- One attribute, if one begins after the blanks. -/
def attribute? (cursor : Cursor) : Except Fault (Option (List Piece × Cursor)) := do
  match ← attributeName? cursor.skipIndent with
  | none => return none
  | some (name, connector) =>
    let (value, after) ← attributeValue (connector.advance 1)
    return some ([name, connector.piece .attributeConnector 1, value], after)

/-- The attributes from here on. Each is longer than nothing, so the text that is left shrinks. -/
def attributes (cursor : Cursor) : Except Fault (List Piece × Cursor) := do
  match ← attribute? cursor with
  | none => return ([], cursor)
  | some (first, after) =>
    if after.rest.length < cursor.rest.length then
      let (others, last) ← attributes after
      return (first ++ others, last)
    else return (first, after)
termination_by cursor.rest.length

/-- A sign and the value after it, if the sign comes next. -/
def sign (mark : Char) (kind : TokenKind) (cursor : Cursor) :
    Except Fault (List Piece × Cursor) :=
  if cursor.rest.head? = some mark then do
    let (name, after) ← value (cursor.advance 1)
    return ([cursor.piece kind 1, name], after)
  else return ([], cursor)

/-- A sign and, after blanks, all that is left. -/
def signAndRest (identifier kind : TokenKind) (cursor : Cursor) : List Piece :=
  [cursor.piece identifier 1, (cursor.advance 1).skipIndent.remainder kind]

def inlineContent (cursor : Cursor) : Except Fault (List Piece) :=
  let start := cursor.skipIndent
  match start.rest with
  | [] => .ok []
  | '=' :: _ => .ok (signAndRest .codeIdentifier .expression start)
  | c :: _ =>
    -- Text is set off from the tag by a blank.
    if start.column = cursor.column then .error ⟨.unexpectedCharacter c, start.column⟩
    else .ok [start.remainder .text]

def tag (cursor : Cursor) : Except Fault (List Piece) := do
  let (element, cursor) ← sign '%' .elementIdentifier cursor
  let (id, cursor) ← sign '#' .elementIdIdentifier cursor
  let (classes, cursor) ← sign '.' .elementClassIdentifier cursor
  let (pairs, cursor) ← attributes cursor
  let content ← inlineContent cursor
  return element ++ id ++ classes ++ pairs ++ content

def docType (cursor : Cursor) : List Piece :=
  let content := (cursor.advance 3).skipIndent.remainder .docType
  cursor.piece .docTypeIdentifier 3 :: if content.content.isEmpty then [] else [content]

/-- A line's content, from its first character that does not indent. -/
def construct (cursor : Cursor) : Except Fault (List Piece) :=
  match cursor.rest with
  | '!' :: '!' :: '!' :: _ => .ok (docType cursor)
  | '/' :: _ => .ok (signAndRest .commentIdentifier .comment cursor)
  | '=' :: _ => .ok (signAndRest .codeIdentifier .expression cursor)
  | '-' :: _ => .ok (signAndRest .silentCodeIdentifier .expression cursor)
  -- A backslash keeps the next character from being a sign.
  | '\\' :: _ => .ok [(cursor.advance 1).remainder .text]
  | '%' :: _ => tag cursor
  | '#' :: _ => tag cursor
  | '.' :: _ => tag cursor
  | _ => .ok [cursor.remainder .text]

/-- The text of a line. A boundary other than a line feed or a carriage return stays in it. -/
def content (line : Text.Line) : Text :=
  if line.ending.all fun c => c == '\n' || c == '\r' then line.body else line.whole

/-- The pieces of a line that is not blank: its indentation, then its content. -/
def pieces (text : Text) : Except Fault (List Piece) := do
  let start : Cursor := ⟨0, text⟩
  let found ← construct start.skipIndent
  return start.piece .whiteSpace (text.takeWhile Text.isIndent).length :: found

def Piece.at (piece : Piece) (line offset : Nat) : Token :=
  ⟨piece.kind, piece.content, line, piece.column + 1, offset + piece.column⟩

/-- The first line with content has no token for an indentation that is empty. -/
def shown (first : Bool) : List Piece → List Piece
  | [] => []
  | indent :: found => if first ∧ indent.content = [] then found else indent :: found

def place (number offset : Nat) (first : Bool) (text : Text) :
    Except CompileError (List Token) :=
  match pieces text with
  | .ok found => .ok ((shown first found).map fun piece => piece.at number offset)
  | .error fault => .error (.invalidSyntax fault.cause number (fault.column + 1))

/-- Lexes lines, given the number and offset of the first and whether none before it counts. -/
def lexLines (number offset : Nat) (first : Bool) :
    List Text.Line → Except CompileError (List Token)
  | [] => .ok []
  | line :: rest =>
    let next := offset + line.whole.length
    -- Blank lines have no tokens, but their characters and breaks are counted.
    if Text.allBlank (content line) then lexLines (number + 1) next first rest
    else do
      let found ← place number offset first (content line)
      let others ← lexLines (number + 1) next false rest
      return found ++ others

/-- The tokens of a source. -/
def lex (source : Text) : Except CompileError (List Token) :=
  lexLines 1 0 true (Text.lines source)

end Stencil.Lexer
