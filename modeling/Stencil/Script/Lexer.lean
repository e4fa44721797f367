import Stencil.Script.Number
import Stencil.Text.Identifier

/-!
Cutting script code into words. Indentation counts where a line begins outside brackets; blank
lines and lines that hold a comment only have no words.
-/

set_option autoImplicit false

namespace Stencil.Script.Lexer

/-- The width of an indentation, counted with tabs to every eighth column and with tabs of one
column. Lines that compare differently in the two ways are not told apart reliably. -/
structure Width where
  wide : Nat
  narrow : Nat
deriving DecidableEq, Repr

def Width.zero : Width := ⟨0, 0⟩

structure State where
  /-- The open indentations, innermost first, without the outermost one of no width. -/
  indents : List Width
  /-- What closes the open brackets, innermost first. -/
  closers : List Symbol
deriving DecidableEq, Repr

def maximalIndents : Nat := 99

def maximalBrackets : Nat := 200

def State.width (state : State) : Width := state.indents.headD .zero

/-- Where a line's content begins: its width and the text from there. -/
structure LineStart where
  width : Width
  rest : Text

/-- Reads an indentation. A backslash joins the next line, and the width up to the first one that
is not at the margin counts. -/
def indentation (width : Width) (fixed : Option Width) : Text → Option LineStart
  | ' ' :: rest => indentation ⟨width.wide + 1, width.narrow + 1⟩ fixed rest
  | '\t' :: rest => indentation ⟨(width.wide / 8 + 1) * 8, width.narrow + 1⟩ fixed rest
  | '\x0c' :: rest => indentation .zero fixed rest
  | '\\' :: '\n' :: rest =>
    if rest.isEmpty then none
    else
      let joined : Option Width :=
        if width.wide = 0 then fixed else some (fixed.getD ⟨width.wide, width.wide⟩)
      indentation width joined rest
  | '\\' :: _ => none
  | rest => some ⟨fixed.getD width, rest⟩

/-- Closes the indentations that are wider than the given width. -/
def dedent (width : Width) : List Width → Nat × List Width
  | [] => (0, [])
  | inner :: outer =>
    if width.wide < inner.wide then
      let (count, left) := dedent width outer
      (count + 1, left)
    else (0, inner :: outer)

/-- The words that a change of indentation stands for. -/
def adjust (state : State) (width : Width) : Option (List Token × State) :=
  let current := state.width
  if width.wide = current.wide then
    if width.narrow = current.narrow then some ([], state) else none
  else if current.wide < width.wide then
    if width.narrow ≤ current.narrow ∨ maximalIndents < state.indents.length + 1 then none
    else some ([.indent], { state with indents := width :: state.indents })
  else
    let (count, left) := dedent width state.indents
    let after : State := { state with indents := left }
    if after.width = width then some (List.replicate count .dedent, after) else none

/-- The length of a string through its closing quote, from behind the opening one. -/
def stringLength? (quote : Char) : Text → Option Nat
  | [] => none
  | '\\' :: [] => none
  | '\\' :: _ :: rest => (stringLength? quote rest).map (· + 2)
  | c :: rest =>
    if c = quote then some 1
    else if c = '\n' then none
    else (stringLength? quote rest).map (· + 1)

/-- The length of a string in triple quotes through its end, from behind the opening ones. -/
def longStringLength? (quote : Char) : Text → Option Nat
  | [] => none
  | '\\' :: [] => none
  | '\\' :: _ :: rest => (longStringLength? quote rest).map (· + 2)
  | c :: rest =>
    if c = quote ∧ [quote, quote].isPrefixOf rest then some 3
    else (longStringLength? quote rest).map (· + 1)

/-- What stands in the quotes that the text begins with, and the length of the whole. -/
def quotes? (text : Text) : Option (Text × Nat) :=
  match text with
  | quote :: rest =>
    if [quote, quote].isPrefixOf rest then
      let body := rest.drop 2
      (longStringLength? quote body).map fun length => (body.take (length - 3), length + 3)
    else
      (stringLength? quote rest).map fun length => (rest.take (length - 1), length + 1)
  | [] => none

/-- The letters in front of a quotation, if that is what they are. -/
def quotationStyle? (letters : Text) : Option Quotation :=
  match letters.map Char.toLower with
  | [] => some ⟨false, false, false, []⟩
  | ['u'] => some ⟨false, false, false, []⟩
  | ['b'] => some ⟨true, false, false, []⟩
  | ['r'] => some ⟨false, true, false, []⟩
  | ['f'] => some ⟨false, false, true, []⟩
  | ['b', 'r'] => some ⟨true, true, false, []⟩
  | ['r', 'b'] => some ⟨true, true, false, []⟩
  | ['f', 'r'] => some ⟨false, true, true, []⟩
  | ['r', 'f'] => some ⟨false, true, true, []⟩
  | _ => none

def isQuote (c : Char) : Bool := c == '"' || c == '\''

/-- The word at the start of a text, where it is a quotation, a keyword or a name. -/
def word? (text : Text) : Option (Token × Nat) :=
  let letters := text.takeWhile isWordPart
  let rest := text.drop letters.length
  let quotation := if rest.head?.any isQuote then quotationStyle? letters else none
  match quotation with
  | some style =>
    (quotes? rest).map fun (body, length) =>
      (.quotation { style with body := body }, letters.length + length)
  | none =>
    match Keyword.ofText? letters with
    | some keyword => some (.keyword keyword, letters.length)
    | none =>
      if Text.isIdentifier letters then some (.name letters, letters.length) else none

def isNumberStart : Text → Bool
  | '.' :: rest => startsWithDigit rest
  | text => startsWithDigit text

/-- The brackets that stay open behind a symbol; a bracket that does not fit has no answer. -/
def bracket? (closers : List Symbol) (symbol : Symbol) : Option (List Symbol) :=
  match symbol.closer? with
  | some closer => if closers.length < maximalBrackets then some (closer :: closers) else none
  | none =>
    if symbol.isCloser then
      match closers with
      | innermost :: outer => if innermost = symbol then some outer else none
      | [] => none
    else some closers

inductive Place where
  | lineStart
  | inLine (blank : Bool)
deriving DecidableEq, Repr

/-- A word other than a line break: the word, its length and the brackets open behind it. -/
def next? (closers : List Symbol) (text : Text) : Option (Token × Nat × List Symbol) :=
  if isNumberStart text then
    (scanNumber text).map fun (number, rest) =>
      (.number number, text.length - rest.length, closers)
  else if text.head?.any fun c => isWordPart c || isQuote c then
    (word? text).map fun (token, length) => (token, length, closers)
  else do
    let (symbol, length) ← Symbol.scan? text
    let closers ← bracket? closers symbol
    return (.symbol symbol, length, closers)

def isGap (c : Char) : Bool := c == ' ' || c == '\t' || c == '\x0c'

/-- The words of a text, each step taking at least a character or leaving the line's start. -/
def scan : Nat → State → Place → Text → Option (List Token)
  | 0, _, _, _ => none
  | fuel + 1, state, .lineStart, text => do
    let start ← indentation .zero none text
    let blank := start.rest.head?.any fun c => c == '#' || c == '\n'
    -- Neither a blank line nor one within brackets changes the indentation.
    if blank || !state.closers.isEmpty then scan fuel state (.inLine blank) start.rest
    else do
      let (words, state) ← adjust state start.width
      let others ← scan fuel state (.inLine false) start.rest
      return words ++ others
  | fuel + 1, state, .inLine blank, text =>
    match text with
    | [] => if state.closers.isEmpty then some [] else none
    | '\n' :: rest =>
      if blank || !state.closers.isEmpty then scan fuel state .lineStart rest
      else (scan fuel state .lineStart rest).map (Token.newline :: ·)
    | '\\' :: rest =>
      match rest with
      | '\n' :: after =>
        if after.isEmpty then none else scan fuel state (.inLine blank) after
      | _ => none
    | '#' :: rest => scan fuel state (.inLine blank) (rest.dropWhile (· != '\n'))
    | c :: rest =>
      if isGap c then scan fuel state (.inLine blank) rest
      else do
        let (token, length, closers) ← next? state.closers text
        let others ← scan fuel { state with closers := closers } (.inLine false)
          (rest.drop (length - 1))
        return token :: others

/-- Carriage returns end lines as line feeds do. -/
def unifyBreaks : Text → Text
  | [] => []
  | '\r' :: '\n' :: rest => '\n' :: unifyBreaks rest
  | '\r' :: rest => '\n' :: unifyBreaks rest
  | c :: rest => c :: unifyBreaks rest

/-- Ends a last line that has no line break. -/
def closeLine (text : Text) : Text :=
  if text.getLast? = some '\n' then text else text ++ ['\n']

def scanAll (text : Text) : Option (List Token) :=
  scan (2 * text.length + 2) ⟨[], []⟩ .lineStart text

/-- The words of whole statements. -/
def statementTokens (source : Text) : Option (List Token) := scanAll (closeLine (unifyBreaks source))

/-- The words of an expression that stands alone. -/
def expressionTokens (source : Text) : Option (List Token) := scanAll (unifyBreaks source)

end Stencil.Script.Lexer
