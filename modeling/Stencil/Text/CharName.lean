import Stencil.Text.Basic
import Stencil.Text.CharName.Ancient
import Stencil.Text.CharName.Asian
import Stencil.Text.CharName.Letters
import Stencil.Text.CharName.Symbols
import Stencil.Text.Composition

/-!
Characters by their names. Most names are listed in chapters; those of Korean syllables and of
ideographs follow a rule.
-/

set_option autoImplicit false

namespace Stencil.CharName

/-! ### Listed names -/

def chapters : List String :=
  [letters, syllables, symbols, asian, forms, ancient, cuneiform, hieroglyphs, eastern, notations,
    pictures, furtherNames]

/-- What a chapter says of one character, or of several that follow each other. -/
inductive Item where
  /-- The code point, unless it is the next one; then how many words the name has in common with
  the one before, and the words behind them. -/
  | listed (code : Option Nat) (kept : Nat) (words : List Text)
  /-- The names of a run are one text, with the code point behind a hyphen. -/
  | numbered (first last : Nat) (name : Text)

def wordsOf (name : Text) : List Text := if name.isEmpty then [] else Text.splitAt ' ' name

def Item.ofBody (code : Option Nat) : Text → Item
  | [] => listed code 0 []
  | kept :: rest => listed code (Text.CodeRun.hexDigit kept) (wordsOf rest)

/-- An item is written `code:` and the rest, the rest alone, or `first-last*name`. -/
def Item.read (text : Text) : Item :=
  match Text.splitAt '*' text with
  | [codes, name] =>
    let codes := (Text.splitAt '-' codes).map Text.CodeRun.hexNumber
    numbered (codes.headD 0) (codes.getLastD 0) name
  | _ =>
    match Text.splitAt ':' text with
    | [code, body] => ofBody (some (Text.CodeRun.hexNumber code)) body
    | _ => ofBody none text

def items (chapter : String) : List Item :=
  (chapter.splitOn "\n").flatMap fun line =>
    let line := line.toList.dropWhile (· == ' ')
    if line.isEmpty then [] else (Text.splitAt ';' line).map Item.read

/-- A name, as words, and the character that has it. -/
structure Entry where
  code : Nat
  words : List Text

def hexText (code : Nat) : Text := (Nat.toDigits 16 code).map Char.toUpper

def numberedEntry (name : Text) (code : Nat) : Entry :=
  ⟨code, wordsOf (name ++ '-' :: hexText code)⟩

/-- The entries of items that follow an entry. -/
def entriesFrom (before : Entry) : List Item → List Entry
  | [] => []
  | .listed code kept words :: rest =>
    let entry : Entry := ⟨code.getD (before.code + 1), before.words.take kept ++ words⟩
    entry :: entriesFrom entry rest
  | .numbered first last name :: rest =>
    (List.range' first (last + 1 - first)).map (numberedEntry name) ++
      entriesFrom (numberedEntry name last) rest

def entries (chapter : String) : List Entry := entriesFrom ⟨0, []⟩ (items chapter)

/-- The code point of a listed name. -/
def listed? (name : Text) : Option Nat :=
  let words := wordsOf (name.map Char.toUpper)
  chapters.findSome? fun chapter =>
    ((entries chapter).find? fun entry => entry.words == words).map (·.code)

/-! ### Korean syllables -/

def syllableStart : Text := "HANGUL SYLLABLE ".toList

def firstLetters : List Text :=
  Text.splitAt ' ' "G GG N D DD R M B BB S SS  J JJ C K T P H".toList

def vowels : List Text :=
  Text.splitAt ' ' "A AE YA YAE EO E YEO YE O WA WAE OE YO U WEO WE WI YU EU YI I".toList

/-- A syllable may have no last letter. -/
def lastLetters : List Text :=
  Text.splitAt ' ' " G GG GS N NJ NH D L LG LM LB LS LT LP LH M B BS S SS NG J C K T P H".toList

/-- The place of the longest of some texts that a text begins with, and its length. -/
def longest (place : Nat) (best : Option (Nat × Nat)) (text : Text) :
    List Text → Option (Nat × Nat)
  | [] => best
  | option :: rest =>
    let longer := best.all fun found => found.2 < option.length
    longest (place + 1) (if longer && option.isPrefixOf text then some (place, option.length)
      else best) text rest

/-- Each letter is taken to be as long as it can be. -/
def syllable? (text : Text) : Option Nat := do
  let (first, length) ← longest 0 none text firstLetters
  let text := text.drop length
  let (vowel, length) ← longest 0 none text vowels
  let text := text.drop length
  let (last, length) ← longest 0 none text lastLetters
  guard (text.length = length)
  return Text.Syllable.code ⟨first, vowel, last⟩

/-! ### Ideographs -/

def ideographStart : Text := "CJK UNIFIED IDEOGRAPH-".toList

def ideographs : Text.Ranges :=
  [ (0x3400, 0x4DBF), (0x4E00, 0x9FFF), (0x20000, 0x2A6DF), (0x2A700, 0x2B738),
    (0x2B740, 0x2B81D), (0x2B820, 0x2CEA1), (0x2CEB0, 0x2EBE0), (0x30000, 0x3134A)]

def isUpperHex (c : Char) : Bool := c.isDigit || ('A' ≤ c && c ≤ 'F')

/-- The code point is given by four or five digits. -/
def ideograph? (digits : Text) : Option Nat := do
  guard ((digits.length = 4 ∨ digits.length = 5) ∧ digits.all isUpperHex)
  let code := Text.CodeRun.hexNumber digits
  guard (ideographs.any fun range => range.1 ≤ code && code ≤ range.2)
  return code

/-- The character of a name. Small letters count as capital ones, except in the beginning of a name
that follows a rule. -/
def find? (name : Text) : Option Char :=
  let code := match Text.afterStart? syllableStart name, Text.afterStart? ideographStart name with
    | some rest, _ => syllable? rest
    | _, some rest => ideograph? rest
    | none, none => listed? name
  code.map Char.ofNat

end Stencil.CharName
