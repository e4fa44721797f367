import Stencil.Script.Escape
import Stencil.Script.Number
import Stencil.Text.Basic
import Stencil.Yaml.Token

/-!
Directives, anchors and tags: the words that begin with an indicator of their own. Each function
gives what it has read and what is left.
-/

set_option autoImplicit false

namespace Stencil.Yaml

/-- A name that has at least one character. -/
def scanName (text : Text) : Except Fault (Text × Text) :=
  let name := text.takeWhile isNameChar
  if name.isEmpty then .error .malformed else .ok (name, text.drop name.length)

/-- The name of an anchor or alias, from behind its indicator. -/
def scanAnchor (text : Text) : Except Fault (Text × Text) := do
  let (name, rest) ← scanName text
  if endsOr (fun c => isGap c || "?:,]\x7d%@\x60".toList.contains c) rest then return (name, rest)
  else .error .malformed

def isUriChar (c : Char) : Bool :=
  c.isAlphanum || "-;/?:@&=+$,_.!~*'()[]".toList.contains c

/-- Bytes written with percent signs. -/
def percentBytes : Nat → Text → Except Fault (List UInt8 × Text)
  | fuel + 1, '%' :: a :: b :: rest => do
    if Script.isDigitOf 16 a && Script.isDigitOf 16 b then
      let (more, rest) ← percentBytes fuel rest
      return (UInt8.ofNat (Script.digitsValue 16 [a, b]) :: more, rest)
    else .error .malformed
  | _ + 1, '%' :: _ => .error .malformed
  | _, text => .ok ([], text)

def scanUri : Nat → Text → Except Fault (Text × Text)
  | 0, text => .ok ([], text)
  | fuel + 1, text =>
    match text with
    | '%' :: _ => do
      let (bytes, rest) ← percentBytes text.length text
      match Text.decode? ⟨bytes.toArray⟩ with
      | some meant => do
        let (more, rest) ← scanUri fuel rest
        return (meant ++ more, rest)
      | none => .error .malformed
    | c :: rest =>
      if isUriChar c then do
        let (more, rest) ← scanUri fuel rest
        return (c :: more, rest)
      else .ok ([], text)
    | [] => .ok ([], [])

def scanNonemptyUri (text : Text) : Except Fault (Text × Text) := do
  let (uri, rest) ← scanUri (text.length + 1) text
  if rest.length = text.length then .error .malformed else return (uri, rest)

/-- An exclamation mark, or a name between two of them. -/
def scanHandle (text : Text) : Except Fault (Text × Text) := do
  match text with
  | '!' :: rest =>
    if rest.head? = some ' ' then return (['!'], rest)
    else
      let name := rest.takeWhile isNameChar
      match rest.drop name.length with
      | '!' :: after => return ('!' :: name ++ ['!'], after)
      | _ => .error .malformed
  | _ => .error .malformed

/-- A tag: its handle, if it has one, and the rest of it. -/
def scanTag (text : Text) : Except Fault ((Option Text × Text) × Text) := do
  let (tag, rest) ← match text.drop 1 with
    | '<' :: rest => do
      let (uri, rest) ← scanNonemptyUri rest
      match rest with
      | '>' :: rest => pure ((none, uri), rest)
      | _ => .error .malformed
    | rest =>
      if endsOr isGap rest then pure ((none, ['!']), rest)
      else if (rest.takeWhile fun c => !isSpaceOrBreak c).contains '!' then do
        let (handle, rest) ← scanHandle text
        let (suffix, rest) ← scanNonemptyUri rest
        pure ((some handle, suffix), rest)
      else do
        let (suffix, rest) ← scanNonemptyUri rest
        pure ((some ['!'], suffix), rest)
  if endsOr isSpaceOrBreak rest then return (tag, rest) else .error .malformed

def scanVersionNumber (text : Text) : Except Fault (Nat × Text) :=
  let digits := text.takeWhile Char.isDigit
  if digits.isEmpty then .error .malformed
  else if digits.length > Script.maximalDigits then .error .unreadableValue
  else .ok (Script.digitsValue 10 digits, text.drop digits.length)

def skipSpaces (text : Text) : Text := text.dropWhile (· == ' ')

/-- A directive, from behind its indicator, with the rest of its line. -/
def scanDirective (text : Text) : Except Fault (Token × Text) := do
  let (name, rest) ← scanName text
  if !endsOr isSpaceOrBreak rest then .error .malformed
  let (token, rest) ←
    if name = "YAML".toList then do
      let (major, rest) ← scanVersionNumber (skipSpaces rest)
      match rest with
      | '.' :: rest => do
        let (_, rest) ← scanVersionNumber rest
        if endsOr isSpaceOrBreak rest then pure (Token.version major, rest)
        else .error .malformed
      | _ => .error .malformed
    else if name = "TAG".toList then do
      let (handle, rest) ← scanHandle (skipSpaces rest)
      if rest.head? ≠ some ' ' then .error .malformed
      let (start, rest) ← scanNonemptyUri (skipSpaces rest)
      if endsOr isSpaceOrBreak rest then pure (Token.handle handle start, rest)
      else .error .malformed
    else pure (Token.otherDirective, toLineEnd rest)
  let rest := skipSpaces rest
  let rest := if rest.head? = some '#' then toLineEnd rest else rest
  if endsOr isBreak rest then return (token, (break? rest).elim [] (·.2)) else .error .malformed

end Stencil.Yaml

/-!
Scalars without quotes. They go over lines as long as these are indented enough.
-/

namespace Stencil.Yaml.Plain

def isFlowIndicator (c : Char) : Bool :=
  c == ',' || c == '[' || c == ']' || c == '{' || c == '}'

/-- Whether a colon before this text is part of a scalar no more. -/
def endsKey (flow : Bool) (text : Text) : Bool :=
  endsOr (fun c => isGap c || flow && isFlowIndicator c) text

/-- A run of characters without a gap, and what comes after it. -/
def word (flow : Bool) : Text → Text × Text
  | [] => ([], [])
  | c :: rest =>
    if isGap c || c == ':' && endsKey flow rest || flow && (c == '?' || isFlowIndicator c) then
      ([], c :: rest)
    else
      let (more, after) := word flow rest
      (c :: more, after)

/-- Further breaks with the spaces around them; nothing if a document ends here. -/
def breaks : Nat → Text → Option Text × Text
  | 0, text => (none, text)
  | fuel + 1, text =>
    let text := text.dropWhile (· == ' ')
    match break? text with
    | none => (some [], text)
    | some (first, rest) =>
      if isSeparator rest then (none, rest)
      else
        let (more, rest) := breaks fuel rest
        (more.map (first ++ ·), rest)

structure Gap where
  /-- What the gap is in the value. A scalar ends where it is nothing. -/
  content : Text
  rest : Text
  broken : Bool

def gap (text : Text) : Gap :=
  let blanks := text.takeWhile (· == ' ')
  let rest := text.drop blanks.length
  match break? rest with
  | none => ⟨blanks, rest, false⟩
  | some (first, rest) =>
    if isSeparator rest then ⟨[], rest, true⟩
    else
      match breaks (rest.length + 1) rest with
      | (none, rest) => ⟨[], rest, true⟩
      | (some more, rest) =>
        if first = ['\n'] then ⟨if more.isEmpty then [' '] else more, rest, true⟩
        else ⟨first ++ more, rest, true⟩

structure Found where
  content : Text
  cursor : Cursor
  /-- Whether the scalar ended at the beginning of a line. -/
  broken : Bool

/-- A scalar that is indented by at least so much. The number bounds the steps. -/
def scalarFrom (flow : Bool) (indent : Int) : Nat → Text → Bool → Cursor → Found
  | 0, _, broken, cursor => ⟨[], cursor, broken⟩
  | fuel + 1, between, broken, cursor =>
    if cursor.rest.head? = some '#' then ⟨[], cursor, broken⟩
    else
      match word flow cursor.rest with
      | ([], _) => ⟨[], cursor, broken⟩
      | (first, rest) =>
        let found := gap rest
        let cursor := cursor.goTo found.rest
        let content := between ++ first
        if found.content.isEmpty || cursor.rest.head? == some '#' ||
            !flow && decide ((cursor.column : Int) < indent) then
          ⟨content, cursor, found.broken⟩
        else
          let more := scalarFrom flow indent fuel found.content found.broken cursor
          ⟨content ++ more.content, more.cursor, more.broken⟩

def scalar (flow : Bool) (indent : Int) (cursor : Cursor) : Found :=
  scalarFrom flow indent (cursor.rest.length + 1) [] false cursor

end Stencil.Yaml.Plain

/-!
Quoted scalars. A break between words is a space, and further breaks are themselves. Each function
gives what it has read and what is left.
-/

namespace Stencil.Yaml.Quoted

abbrev Reading := Except Fault (Text × Text)

/-- The character that a letter behind a backslash stands for. -/
def simple? : Char → Option Char
  | '0' => some '\x00'
  | 'a' => some '\x07'
  | 'b' => some '\x08'
  | 't' => some '\t'
  | '\t' => some '\t'
  | 'n' => some '\n'
  | 'v' => some '\x0b'
  | 'f' => some '\x0c'
  | 'r' => some '\r'
  | 'e' => some '\x1b'
  | ' ' => some ' '
  | '"' => some '"'
  | '\\' => some '\\'
  | '/' => some '/'
  | 'N' => some '\u0085'
  | '_' => some '\u00a0'
  | 'L' => some '\u2028'
  | 'P' => some '\u2029'
  | _ => none

/-- From here on numbers are too great to be looked at as code points. -/
def maximalCode : Nat := 0x80000000

def numeric (count : Nat) (text : Text) : Reading :=
  match Script.Escape.hexValue? count text with
  | none => .error .malformed
  | some (value, rest) =>
    match Point.ofCode? value with
    | some point => .ok ([point.shown], rest)
    | none => .error (if value < maximalCode then .unreadableValue else .overflow)

/-- Further breaks, with the blanks before them. The number bounds the steps. -/
def breaks : Nat → Text → Reading
  | 0, _ => .error .malformed
  | fuel + 1, text =>
    if isSeparator text then .error .malformed
    else
      let text := text.dropWhile isSpaceOrTab
      match break? text with
      | none => .ok ([], text)
      | some (first, rest) => do
        let (more, rest) ← breaks fuel rest
        return (first ++ more, rest)

/-- What stands between two words. -/
def gap (text : Text) : Reading := do
  let blanks := text.takeWhile isSpaceOrTab
  let rest := text.drop blanks.length
  match rest with
  | [] => .error .malformed
  | _ =>
    match break? rest with
    | none => return (blanks, rest)
    | some (first, rest) => do
      let (more, rest) ← breaks (rest.length + 1) rest
      if first = ['\n'] then return (if more.isEmpty then [' '] else more, rest)
      else return (first ++ more, rest)

/-- One escape, from behind the backslash. -/
def escape : Text → Reading
  | [] => .error .malformed
  | 'x' :: rest => numeric 2 rest
  | 'u' :: rest => numeric 4 rest
  | 'U' :: rest => numeric 8 rest
  | c :: rest =>
    match simple? c with
    | some meant => .ok ([meant], rest)
    | none =>
      match break? (c :: rest) with
      | some (_, rest) => breaks (rest.length + 1) rest
      | none => .error .malformed

/-- The content of a scalar, up to its closing quote. The number bounds the steps. -/
def content (quote : Char) : Nat → Text → Reading
  | 0, _ => .error .malformed
  | _ + 1, [] => .error .malformed
  | fuel + 1, c :: rest => do
    if c = quote then
      if quote = '\'' ∧ rest.head? = some '\'' then
        let (more, rest) ← content quote fuel (rest.drop 1)
        return ('\'' :: more, rest)
      else return ([], rest)
    else if quote = '"' ∧ c = '\\' then
      let (meant, rest) ← escape rest
      let (more, rest) ← content quote fuel rest
      return (meant ++ more, rest)
    else if isGap c then
      let (between, rest) ← gap (c :: rest)
      let (more, rest) ← content quote fuel rest
      return (between ++ more, rest)
    else
      let (more, rest) ← content quote fuel rest
      return (c :: more, rest)

/-- A scalar, from behind its opening quote. -/
def scalar (quote : Char) (text : Text) : Reading := content quote (text.length + 1) text

end Stencil.Yaml.Quoted

/-!
Scalars that are lines of their own, kept as they are or folded into one.
-/

namespace Stencil.Yaml.Block

/-- What becomes of the breaks at the end. -/
inductive Chomping where
  | clip | strip | keep
deriving DecidableEq, Repr

structure Header where
  chomping : Chomping
  increment : Option Nat
deriving DecidableEq, Repr

def chomping? : Char → Option Chomping
  | '+' => some .keep
  | '-' => some .strip
  | _ => none

/-- A digit that tells the indentation; zero does not. -/
def increment? (c : Char) : Option Nat :=
  if c.isDigit && c != '0' then some (c.toNat - 48) else none

def header (text : Text) : Except Fault (Header × Text) := do
  let (found, rest) : Header × Text := match text with
    | a :: b :: rest =>
      match chomping? a, increment? b, increment? a, chomping? b with
      | some chomping, some increment, _, _ => (⟨chomping, some increment⟩, rest)
      | some chomping, none, _, _ => (⟨chomping, none⟩, b :: rest)
      | none, _, some increment, some chomping => (⟨chomping, some increment⟩, rest)
      | none, _, some increment, none => (⟨.clip, some increment⟩, b :: rest)
      | none, _, none, _ => (⟨.clip, none⟩, a :: b :: rest)
    | [a] =>
      match chomping? a, increment? a with
      | some chomping, _ => (⟨chomping, none⟩, [])
      | none, some increment => (⟨.clip, some increment⟩, [])
      | none, none => (⟨.clip, none⟩, [a])
    | [] => (⟨.clip, none⟩, [])
  if endsOr isSpaceOrBreak rest then return (found, rest) else .error .malformed

/-- The rest of a line that may hold only a comment, and the break that ends it. -/
def blankLine (text : Text) : Except Fault Text :=
  let text := text.dropWhile (· == ' ')
  let text := if text.head? = some '#' then toLineEnd text else text
  match text, break? text with
  | [], _ => .ok []
  | _, some (_, rest) => .ok rest
  | _, none => .error .malformed

/-- The breaks before the first line, the greatest column that spaces reach, and the column of the
first line. -/
def leading (column greatest : Nat) : Text → Text × Nat × Nat × Text
  | [] => ([], greatest, column, [])
  | c :: rest =>
    if c = ' ' then leading (column + 1) (max greatest (column + 1)) rest
    else
      match break? (c :: rest) with
      | some (found, _) =>
        let (more, greatest, column, rest) := leading 0 greatest rest
        (found ++ more, greatest, column, rest)
      | none => ([], greatest, column, c :: rest)

/-- Skips at most so many spaces, and tells how many they were. -/
def skipSpaces : Nat → Text → Nat × Text
  | count + 1, ' ' :: rest =>
    let (skipped, rest) := skipSpaces count rest
    (skipped + 1, rest)
  | _, text => (0, text)

/-- The breaks before the next line, with the spaces that are its indentation, and its column. -/
def breaks (indent : Nat) : Nat → Text → Text × Nat × Text
  | 0, text => ([], 0, text)
  | fuel + 1, text =>
    let (column, rest) := skipSpaces indent text
    match break? rest with
    | some (found, rest) =>
      let (more, column, rest) := breaks indent fuel rest
      (found ++ more, column, rest)
    | none => ([], column, rest)

/-- What is between a line and the next one. -/
def between (folded leadingText : Bool) (ending more rest : Text) : Text :=
  if folded && ending == ['\n'] && leadingText && !meets isSpaceOrTab rest then
    if more.isEmpty then [' '] else []
  else ending

def tail (chomping : Chomping) (ending more : Text) : Text :=
  match chomping with
  | .strip => []
  | .clip => ending
  | .keep => ending ++ more

/-- The lines of a scalar from one that begins in its column. The number bounds the steps. -/
def lines (folded : Bool) (chomping : Chomping) (indent : Nat) : Nat → Text → Text × Text
  | 0, text => ([], text)
  | fuel + 1, text =>
    let line := text.takeWhile fun c => !isBreak c
    let rest := text.drop line.length
    let (ending, rest) := (break? rest).getD ([], rest)
    let (more, column, rest) := if ending.isEmpty then ([], indent + 1, rest)
      else breaks indent (rest.length + 1) rest
    if column = indent ∧ rest ≠ [] then
      let (others, after) := lines folded chomping indent fuel rest
      (line ++ between folded (!meets isSpaceOrTab text) ending more rest ++ more ++ others, after)
    else (line ++ tail chomping ending more, rest)

/-- A scalar, from behind its indicator, within what is indented by so much. -/
def scalar (folded : Bool) (outer : Int) (text : Text) : Except Fault (Text × Text) := do
  let (header, rest) ← header text
  let rest ← blankLine rest
  let least := (max (outer + 1) 1).toNat
  let (before, indent, column, rest) : Text × Nat × Nat × Text := match header.increment with
    | none =>
      let (before, greatest, column, rest) := leading 0 0 rest
      (before, max least greatest, column, rest)
    | some increment =>
      let indent := least + increment - 1
      let (before, column, rest) := breaks indent (rest.length + 1) rest
      (before, indent, column, rest)
  if column = indent ∧ rest ≠ [] then
    let (content, rest) := lines folded header.chomping indent (rest.length + 1) rest
    return (before ++ content, rest)
  else return (tail header.chomping [] before, rest)

end Stencil.Yaml.Block
