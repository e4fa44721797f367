/-!
Text is a list of characters: every count, column and cut in this library is a number of
characters, and every law about text is a law about lists.
-/

set_option autoImplicit false

namespace Stencil

abbrev Text := List Char

namespace Text

def spaces (count : Nat) : Text := List.replicate count ' '

theorem length_spaces (count : Nat) : (spaces count).length = count := by
  simp [spaces]

def join (separator : Text) (parts : List Text) : Text :=
  List.intercalate separator parts

def decimal (number : Nat) : Text := Nat.toDigits 10 number

/-- At least so many digits, with zeros before those of the number. -/
def padded (width : Nat) (number : Nat) : Text :=
  let digits := decimal number
  List.replicate (width - digits.length) '0' ++ digits

def signed (number : Int) : Text :=
  if number < 0 then '-' :: decimal number.natAbs else decimal number.natAbs

/-- Compares texts character by character; a proper beginning of a text comes before it. -/
def precedes : Text → Text → Bool
  | [], _ => true
  | _ :: _, [] => false
  | a :: left, b :: right => a < b || a == b && precedes left right

/-- The members of a list in order, each of them once. -/
def sortUnique (texts : List Text) : List Text :=
  (texts.mergeSort precedes).eraseReps

/-- Drops the longest ending whose characters all satisfy the test. -/
def dropRightWhile (test : Char → Bool) (text : Text) : Text :=
  (text.reverse.dropWhile test).reverse

theorem dropRightWhile_append_of_not {test : Char → Bool} (text : Text) (last : Char)
    (kept : test last = false) :
    dropRightWhile test (text ++ [last]) = text ++ [last] := by
  simp [dropRightWhile, kept]

/-- Removes the given beginning, if the text has it. -/
def afterStart? (start : Text) (text : Text) : Option Text :=
  if start.isPrefixOf text then some (text.drop start.length) else none

def endsIn (ending : Text) (text : Text) : Bool := ending.isSuffixOf text

/-- Replaces each character that has a replacement. -/
def replaceEach (replacement : Char → Option Text) (text : Text) : Text :=
  text.flatMap fun c => (replacement c).getD [c]

theorem replaceEach_append (replacement : Char → Option Text) (left right : Text) :
    replaceEach replacement (left ++ right) =
      replaceEach replacement left ++ replaceEach replacement right := by
  simp [replaceEach]

/-- Cuts a text at every occurrence of a character. -/
def splitAt (separator : Char) : Text → List Text
  | [] => [[]]
  | c :: rest =>
    match splitAt separator rest with
    | [] => [[c]]
    | first :: others => if c = separator then [] :: first :: others else (c :: first) :: others

theorem splitAt_ne_nil (separator : Char) (text : Text) : splitAt separator text ≠ [] := by
  cases text with
  | nil => simp [splitAt]
  | cons c rest =>
    rw [splitAt]
    split
    next => simp
    next => split <;> simp

/-- A set of characters, as ranges of code points with both ends included. -/
abbrev Ranges := List (Nat × Nat)

def Ranges.contains (ranges : Ranges) (c : Char) : Bool :=
  ranges.any fun range => range.1 ≤ c.toNat && c.toNat ≤ range.2

end Text

end Stencil

/-!
Blank characters: white space in the wide sense, with the four information separators.
-/

namespace Stencil.Text

def isBlank (c : Char) : Bool :=
  let code := c.toNat
  9 ≤ code && code ≤ 13 || 28 ≤ code && code ≤ 32 || code == 0x85 || code == 0xA0 ||
    code == 0x1680 || 0x2000 ≤ code && code ≤ 0x200A || code == 0x2028 || code == 0x2029 ||
    code == 0x202F || code == 0x205F || code == 0x3000

theorem isBlank_of_isWhitespace {c : Char} (space : c.isWhitespace = true) :
    isBlank c = true := by
  simp only [Char.isWhitespace, Bool.or_eq_true, decide_eq_true_eq] at space
  rcases space with ((space | space) | space) | space <;> subst space <;> decide

/-- The characters that indent a line and separate the parts of a tag. -/
def isIndent (c : Char) : Bool := c == ' ' || c == '\t'

theorem isBlank_of_isIndent {c : Char} (indent : isIndent c = true) : isBlank c = true := by
  simp only [isIndent, Bool.or_eq_true, beq_iff_eq] at indent
  rcases indent with indent | indent <;> subst indent <;> decide

def allBlank (text : Text) : Bool := text.all isBlank

def trimRight (text : Text) : Text := dropRightWhile isBlank text

def trim (text : Text) : Text := trimRight (text.dropWhile isBlank)

end Stencil.Text

/-!
Decimal digits of all scripts. The ten digits of a script follow each other.
-/

namespace Stencil.Text

/-- The zeros of the scripts other than ASCII. -/
def zeroCodes : List Nat :=
  [ 0x660, 0x6F0, 0x7C0, 0x966, 0x9E6, 0xA66, 0xAE6, 0xB66, 0xBE6, 0xC66, 0xCE6, 0xD66, 0xDE6,
    0xE50, 0xED0, 0xF20, 0x1040, 0x1090, 0x17E0, 0x1810, 0x1946, 0x19D0, 0x1A80, 0x1A90, 0x1B50,
    0x1BB0, 0x1C40, 0x1C50, 0xA620, 0xA8D0, 0xA900, 0xA9D0, 0xA9F0, 0xAA50, 0xABF0, 0xFF10,
    0x104A0, 0x10D30, 0x11066, 0x110F0, 0x11136, 0x111D0, 0x112F0, 0x11450, 0x114D0, 0x11650,
    0x116C0, 0x11730, 0x118E0, 0x11950, 0x11C50, 0x11D50, 0x11DA0, 0x16A60, 0x16AC0, 0x16B50,
    0x1D7CE, 0x1D7D8, 0x1D7E2, 0x1D7EC, 0x1D7F6, 0x1E140, 0x1E2F0, 0x1E950, 0x1FBF0]

/-- The ASCII digit of the same value; every other character stays. -/
def asciiDigit (c : Char) : Char :=
  if c.toNat < 128 then c
  else
    match zeroCodes.find? fun first => first ≤ c.toNat && c.toNat < first + 10 with
    | some first => Char.ofNat (c.toNat - first + '0'.toNat)
    | none => c

theorem asciiDigit_of_ascii (c : Char) (ascii : c.toNat < 128) : asciiDigit c = c := by
  rw [asciiDigit, if_pos ascii]

end Stencil.Text

/-!
Cutting text into lines. Eleven boundaries end a line, a carriage return and a line feed in a
row being one of them. Nothing is lost: the lines with their endings are the text.
-/

namespace Stencil.Text

def isBoundary (c : Char) : Bool :=
  let code := c.toNat
  10 ≤ code && code ≤ 13 || 28 ≤ code && code ≤ 30 || code == 0x85 || code == 0x2028 ||
    code == 0x2029

/-- A line and the boundary that ends it; the last line of a text may have none. -/
structure Line where
  body : Text
  ending : Text
deriving DecidableEq

def Line.whole (line : Line) : Text := line.body ++ line.ending

/-- Puts a character in front of the first line. -/
def Line.extend (c : Char) : List Line → List Line
  | [] => [⟨[c], []⟩]
  | line :: more => ⟨c :: line.body, line.ending⟩ :: more

def lines : Text → List Line
  | [] => []
  | '\r' :: '\n' :: rest => ⟨[], ['\r', '\n']⟩ :: lines rest
  | c :: rest => if isBoundary c then ⟨[], [c]⟩ :: lines rest else Line.extend c (lines rest)

theorem flatten_extend (c : Char) (found : List Line) :
    ((Line.extend c found).map Line.whole).flatten = c :: (found.map Line.whole).flatten := by
  cases found <;> simp [Line.extend, Line.whole]

theorem flatten_lines (text : Text) : ((lines text).map Line.whole).flatten = text := by
  fun_induction lines text with
  | case1 => rfl
  | case2 rest ih => simp [Line.whole, ih]
  | case3 c rest _ boundary ih => simp [Line.whole, ih]
  | case4 c rest _ inside ih => rw [flatten_extend, ih]

end Stencil.Text

/-!
Text as bytes, and the line feeds that text has once it is read from a file.
-/

namespace Stencil.Text

def encode (text : Text) : ByteArray := (String.ofList text).toByteArray

/-- The text that bytes encode; not all bytes encode a text. -/
def decode? (bytes : ByteArray) : Option Text := bytes.utf8Decode?.map Array.toList

/-- The characters of a literal that is written in two pieces, from those of the pieces. -/
theorem toList_append_of_chars {first second : String} {chars others : Text}
    (one : first.toList = chars) (other : second.toList = others) :
    (first ++ second).toList = chars ++ others := by
  rw [String.toList_append, one, other]

theorem decode?_encode (text : Text) : decode? (encode text) = some text := by
  simp [decode?, encode]

/-- Turns each way of ending a line into a line feed. -/
def unifyEndings : Text → Text
  | [] => []
  | '\r' :: '\n' :: rest => '\n' :: unifyEndings rest
  | '\r' :: rest => '\n' :: unifyEndings rest
  | c :: rest => c :: unifyEndings rest

end Stencil.Text
