import Stencil.Script.Number
import Stencil.Text.CharName
import Stencil.Text.Point

/-!
What the escapes in a quoted literal stand for. An escape that means nothing stands for itself,
backslash included; one that begins like a numeric escape or like a character's name and is none
makes the literal malformed.
-/

set_option autoImplicit false

namespace Stencil.Script.Escape

/-- The character that a letter behind a backslash stands for. -/
def simple? : Char → Option Char
  | '\\' => some '\\'
  | '\'' => some '\''
  | '"' => some '"'
  | 'a' => some '\x07'
  | 'b' => some '\x08'
  | 'f' => some '\x0c'
  | 'n' => some '\n'
  | 'r' => some '\r'
  | 't' => some '\t'
  | 'v' => some '\x0b'
  | _ => none

/-- The value of exactly so many hexadecimal digits, and the text after them. -/
def hexValue? (count : Nat) (text : Text) : Option (Nat × Text) :=
  let digits := text.take count
  if digits.length = count ∧ digits.all (isDigitOf 16) then
    some (digitsValue 16 digits, text.drop count)
  else none

/-- Up to three octal digits. -/
def octal (text : Text) : Nat × Text :=
  let digits := (text.take 3).takeWhile (isDigitOf 8)
  (digitsValue 8 digits, text.drop digits.length)

/-- The name in braces that an escape gives, and the text after it. -/
def nameInBraces? : Text → Option (Text × Text)
  | '{' :: inside =>
    let name := inside.takeWhile (· != '}')
    match inside.drop name.length with
    | '}' :: rest => some (name, rest)
    | _ => none
  | _ => none

def numeric? (count : Nat) (text : Text) : Option (Points × Text) := do
  let (value, after) ← hexValue? count text
  let meant ← Point.ofCode? value
  return ([meant], after)

/-- One escape, from behind the backslash: what it stands for and what is left. A backslash at the
end stands for itself. -/
def escape? : Text → Option (Points × Text)
  | [] => some ([.char '\\'], [])
  | '\n' :: rest => some ([], rest)
  | 'x' :: rest => numeric? 2 rest
  | 'u' :: rest => numeric? 4 rest
  | 'U' :: rest => numeric? 8 rest
  | 'N' :: rest => do
    let (name, after) ← nameInBraces? rest
    let meant ← CharName.find? name
    return ([.char meant], after)
  | c :: rest =>
    match simple? c with
    | some meant => some ([.char meant], rest)
    | none =>
      if isDigitOf 8 c then
        let (value, after) := octal (c :: rest)
        (Point.ofCode? value).map fun meant => ([meant], after)
      else some ([.char '\\', .char c], rest)

/-- Replaces every escape of a text. The number is a bound on the steps. -/
def unescapeUpTo : Nat → Text → Option Points
  | 0, _ => none
  | _ + 1, [] => some []
  | fuel + 1, '\\' :: rest => do
    let (meant, after) ← escape? rest
    let others ← unescapeUpTo fuel after
    return meant ++ others
  | fuel + 1, c :: rest => (unescapeUpTo fuel rest).map (.char c :: ·)

def unescape? (text : Text) : Option Points := unescapeUpTo (text.length + 1) text

/-! ### Bytes -/

def byteOf (c : Char) : UInt8 := UInt8.ofNat c.toNat

/-- One escape of a byte string. -/
def byteEscape? : Text → Option (List UInt8 × Text)
  | [] => none
  | '\n' :: rest => some ([], rest)
  | 'x' :: rest => do
    let (value, after) ← hexValue? 2 rest
    return ([UInt8.ofNat value], after)
  | c :: rest =>
    match simple? c with
    | some meant => some ([byteOf meant], rest)
    | none =>
      if isDigitOf 8 c then
        let (value, after) := octal (c :: rest)
        some ([UInt8.ofNat value], after)
      else some ([byteOf '\\', byteOf c], rest)

def unescapeBytesUpTo : Nat → Text → Option (List UInt8)
  | 0, _ => none
  | _ + 1, [] => some []
  | fuel + 1, '\\' :: rest => do
    let (meant, after) ← byteEscape? rest
    let others ← unescapeBytesUpTo fuel after
    return meant ++ others
  | fuel + 1, c :: rest => (unescapeBytesUpTo fuel rest).map (byteOf c :: ·)

/-- The bytes of a byte string, which is written in ASCII. -/
def bytes? (raw : Bool) (text : Text) : Option (List UInt8) := do
  guard (text.all (·.toNat < 128))
  if raw then return text.map byteOf else unescapeBytesUpTo (text.length + 1) text

end Stencil.Script.Escape
