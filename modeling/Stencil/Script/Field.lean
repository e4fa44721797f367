import Stencil.Decimal
import Stencil.Script.Number
import Stencil.Text.Point

/-!
The fields of a text that is filled with values. A field is a percent sign, then optionally a key
in parentheses, flags, a width, a precision and a letter that has no meaning, then the letter that
says how the value is written.
-/

set_option autoImplicit false

namespace Stencil.Script

namespace Field

inductive Key where
  | absent
  | named (key : Text)
  | unclosed
deriving DecidableEq, Repr

structure Flags where
  left : Bool
  plus : Bool
  blank : Bool
  alternate : Bool
  zero : Bool
deriving DecidableEq, Repr

/-- A width or a precision. -/
inductive Extent where
  | absent
  | fixed (count : Nat)
  /-- The next value says it. -/
  | supplied
deriving DecidableEq, Repr

end Field

/-- A field without a letter is cut off by the end of the text. -/
structure Field where
  key : Field.Key
  flags : Field.Flags
  width : Field.Extent
  precision : Field.Extent
  letter : Option Char
deriving DecidableEq, Repr

namespace Field

/-- The text up to the parenthesis that closes the first one, and what is behind it. -/
def scanKey : Nat → Text → Option (Text × Text)
  | _, [] => none
  | depth, c :: rest =>
    if c = ')' then
      match depth with
      | 0 => some ([], rest)
      | depth + 1 => (scanKey depth rest).map fun (key, after) => (c :: key, after)
    else
      (scanKey (if c = '(' then depth + 1 else depth) rest).map fun (key, after) =>
        (c :: key, after)

def isFlag (c : Char) : Bool := c == '-' || c == '+' || c == ' ' || c == '#' || c == '0'

def flagsOf (letters : Text) : Flags :=
  { left := letters.contains '-'
    plus := letters.contains '+'
    blank := letters.contains ' '
    alternate := letters.contains '#'
    zero := letters.contains '0' }

def scanExtent : Text → Extent × Text
  | '*' :: rest => (.supplied, rest)
  | text =>
    let digits := text.takeWhile (isDigitOf 10)
    (if digits.isEmpty then .absent else .fixed (digitsValue 10 digits), text.drop digits.length)

/-- A point without digits asks for a precision of zero. -/
def scanPrecision : Text → Extent × Text
  | '.' :: rest =>
    match scanExtent rest with
    | (.absent, after) => (.fixed 0, after)
    | found => found
  | text => (.absent, text)

def isIdleLetter (c : Char) : Bool := c == 'h' || c == 'l' || c == 'L'

/-- The field behind a percent sign. -/
def scan (text : Text) : Field × Text :=
  let (key, text) := match text with
    | '(' :: rest =>
      match scanKey 0 rest with
      | some (key, after) => (Key.named key, after)
      | none => (Key.unclosed, [])
    | text => (Key.absent, text)
  let letters := text.takeWhile isFlag
  let (width, text) := scanExtent (text.drop letters.length)
  let (precision, text) := scanPrecision text
  let text := match text with
    | c :: rest => if isIdleLetter c then rest else c :: rest
    | [] => []
  (⟨key, flagsOf letters, width, precision, text.head?⟩, text.drop 1)

/-! ### Writing -/

/-- A written value: its sign, what marks its base, and the rest. -/
structure Piece where
  sign : Text
  mark : Text
  body : Text
  numeric : Bool
deriving DecidableEq, Repr

def Piece.plain (text : Text) : Piece := ⟨[], [], text, false⟩

def Piece.length (piece : Piece) : Nat :=
  piece.sign.length + piece.mark.length + piece.body.length

/-- A piece on at least the given width. Zeros go between the sign and the digits of a number. -/
def Piece.layOut (piece : Piece) (flags : Flags) (width : Nat) : Text :=
  let fill := width - piece.length
  let start := piece.sign ++ piece.mark
  if flags.left then start ++ piece.body ++ Text.spaces fill
  else if flags.zero && piece.numeric then start ++ List.replicate fill '0' ++ piece.body
  else Text.spaces fill ++ start ++ piece.body

theorem Piece.length_layOut (piece : Piece) (flags : Flags) (width : Nat) :
    (piece.layOut flags width).length = max width piece.length := by
  unfold Piece.layOut
  dsimp only
  split
  next => simp [Text.length_spaces, Piece.length]; omega
  next =>
    split
    next => simp [Piece.length]; omega
    next => simp [Text.length_spaces, Piece.length]; omega

def signOf (flags : Flags) (negative : Bool) : Text :=
  if negative then ['-'] else if flags.plus then ['+'] else if flags.blank then [' '] else []

def base (letter : Char) : Nat :=
  if letter = 'o' then 8 else if letter = 'x' ∨ letter = 'X' then 16 else 10

/-- A whole number, with zeros before its digits if the precision asks for more. -/
def integerPiece (letter : Char) (flags : Flags) (precision : Nat) (value : Int) : Piece :=
  let digits := Nat.toDigits (base letter) value.natAbs
  let digits := List.replicate (precision - digits.length) '0' ++ digits
  let mark := if flags.alternate ∧ base letter ≠ 10 then ['0', letter] else []
  ⟨signOf flags (value < 0), mark, if letter = 'X' then digits.map Char.toUpper else digits, true⟩

def standardPlaces : Nat := 6

def realBody (letter : Char) (flags : Flags) (precision : Nat) (amount : Decimal.Amount) : Text :=
  match letter.toLower with
  | 'f' => amount.fixed precision flags.alternate
  | 'e' => amount.scientific precision flags.alternate
  | _ => amount.general precision flags.alternate

def realPiece (letter : Char) (flags : Flags) (precision : Nat) (value : Float) : Piece :=
  let (negative, body) := match Decimal.Reading.ofFloat value with
    | .notANumber => (false, "nan".toList)
    | .infinite negative => (negative, "inf".toList)
    | .zero negative => (negative, realBody letter flags precision none)
    | .finite negative binary => (negative, realBody letter flags precision (some binary))
  ⟨signOf flags negative, [], if letter.isUpper then body.map Char.toUpper else body, true⟩

/-- Text in ASCII characters only. -/
def asciiText (text : Text) : Text :=
  text.flatMap fun c => if c.toNat < 128 then [c] else Text.numericEscape c

end Field

end Stencil.Script
