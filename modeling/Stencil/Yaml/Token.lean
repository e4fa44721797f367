import Stencil.Text.Basic

/-!
The words that a YAML text is made of, and the characters that tell where words end.
-/

set_option autoImplicit false

namespace Stencil.Yaml

/-- Why a text holds no value. -/
inductive Fault where
  /-- The text breaks a rule of the format. -/
  | malformed
  /-- A scalar does not spell a value of the kind that it has to be. -/
  | unreadableValue
  /-- A truth value is spelled by a word that is none. -/
  | unknownWord
  /-- A number has no digits. -/
  | emptyNumber
  /-- A point in time does not have the form of one. -/
  | unreadableMoment
  /-- A mapping stands where only a scalar can be read. -/
  | notScalar
  /-- A number is greater than can be computed with. -/
  | overflow
  /-- Nodes are nested too deep. -/
  | tooDeep
deriving DecidableEq, Repr

inductive Token where
  | version (major : Nat)
  | handle (name start : Text)
  | otherDirective
  | documentStart
  | documentEnd
  | streamEnd
  | blockSequenceStart
  | blockMappingStart
  | blockEnd
  | flowSequenceStart
  | flowSequenceEnd
  | flowMappingStart
  | flowMappingEnd
  | blockEntry
  | flowEntry
  | key
  | value
  | reference (name : Text)
  | anchor (name : Text)
  | tag (handle : Option Text) (suffix : Text)
  | scalar (plain : Bool) (content : Text)
  /-- The text cannot be cut into words from here on. -/
  | broken (fault : Fault)
deriving DecidableEq, Repr

/-- Characters that a text may hold as they are. -/
def isAllowed (c : Char) : Bool :=
  let code := c.toNat
  code == 9 || code == 10 || code == 13 || 0x20 ≤ code && code ≤ 0x7e || code == 0x85 ||
    0xa0 ≤ code && code ≤ 0xd7ff || 0xe000 ≤ code && code ≤ 0xfffd || 0x10000 ≤ code

def isBreak (c : Char) : Bool :=
  let code := c.toNat
  code == 10 || code == 13 || code == 0x85 || code == 0x2028 || code == 0x2029

def isSpaceOrBreak (c : Char) : Bool := c == ' ' || isBreak c

def isGap (c : Char) : Bool := c == ' ' || c == '\t' || isBreak c

def isSpaceOrTab (c : Char) : Bool := c == ' ' || c == '\t'

/-- Whether a text is at its end or goes on with a character of a class. -/
def endsOr (test : Char → Bool) : Text → Bool
  | [] => true
  | c :: _ => test c

def meets (test : Char → Bool) : Text → Bool
  | [] => false
  | c :: _ => test c

/-- What a break is in a value, and what comes after it. Most breaks are line feeds. -/
def break? : Text → Option (Text × Text)
  | [] => none
  | c :: rest =>
    if isBreak c then
      some (if c.toNat = 0x2028 ∨ c.toNat = 0x2029 then [c] else ['\n'], rest)
    else none

def toLineEnd (text : Text) : Text := text.dropWhile fun c => !isBreak c

/-- Whether a line begins with the mark of a document's start or end. -/
def isMarker (mark : Text) (text : Text) : Bool :=
  mark.isPrefixOf text && endsOr isGap (text.drop mark.length)

def startMark : Text := ['-', '-', '-']

def endMark : Text := ['.', '.', '.']

def isSeparator (text : Text) : Bool := isMarker startMark text || isMarker endMark text

/-- A text without a line feed at its end. How a scalar is written does not depend on that one. -/
def withoutFinalFeed (text : Text) : Text :=
  if text.getLast? = some '\n' then text.dropLast else text

theorem withoutFinalFeed_append (text : Text) : withoutFinalFeed (text ++ ['\n']) = text := by
  simp [withoutFinalFeed]

def isNameChar (c : Char) : Bool := c.isAlphanum || c == '-' || c == '_'

/-! ### Where in a text one is: how far along, on which line and in which column, all from zero -/

structure Cursor where
  rest : Text
  index : Nat
  line : Nat
  column : Nat
deriving DecidableEq, Repr

namespace Cursor

def ofText (text : Text) : Cursor := ⟨text, 0, 0, 0⟩

/-- The mark of the byte order, which takes no column. -/
def orderMark : Char := '\ufeff'

def next (cursor : Cursor) : Cursor :=
  match cursor.rest with
  | [] => cursor
  | c :: rest =>
    if isBreak c then ⟨rest, cursor.index + 1, cursor.line + 1, 0⟩
    else if c = orderMark then ⟨rest, cursor.index + 1, cursor.line, cursor.column⟩
    else ⟨rest, cursor.index + 1, cursor.line, cursor.column + 1⟩

def skip : Nat → Cursor → Cursor
  | 0, cursor => cursor
  | count + 1, cursor => skip count cursor.next

/-- Goes on to where only an ending of the text is left. -/
def goTo (cursor : Cursor) (rest : Text) : Cursor :=
  skip (cursor.rest.length - rest.length) cursor

theorem length_next (cursor : Cursor) : cursor.next.rest.length = cursor.rest.length - 1 := by
  unfold next
  split
  next empty => simp [empty]
  next c rest more => split <;> (try split) <;> simp [more]

end Cursor

end Stencil.Yaml
