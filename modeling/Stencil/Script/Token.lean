import Stencil.Decimal

/-!
The words of the script language that templates embed.
-/

set_option autoImplicit false

namespace Stencil.Script

inductive Keyword where
  | falseWord | noneWord | trueWord | andWord | asWord | assertWord | asyncWord | awaitWord
  | breakWord | classWord | continueWord | defWord | delWord | elifWord | elseWord | exceptWord
  | finallyWord | forWord | fromWord | globalWord | ifWord | importWord | inWord | isWord
  | lambdaWord | nonlocalWord | notWord | orWord | passWord | raiseWord | returnWord | tryWord
  | whileWord | withWord | yieldWord
deriving DecidableEq, Repr

namespace Keyword

def all : List (Text × Keyword) :=
  [ ("False".toList, falseWord), ("None".toList, noneWord), ("True".toList, trueWord),
    ("and".toList, andWord), ("as".toList, asWord), ("assert".toList, assertWord),
    ("async".toList, asyncWord), ("await".toList, awaitWord), ("break".toList, breakWord),
    ("class".toList, classWord), ("continue".toList, continueWord), ("def".toList, defWord),
    ("del".toList, delWord), ("elif".toList, elifWord), ("else".toList, elseWord),
    ("except".toList, exceptWord), ("finally".toList, finallyWord), ("for".toList, forWord),
    ("from".toList, fromWord), ("global".toList, globalWord), ("if".toList, ifWord),
    ("import".toList, importWord), ("in".toList, inWord), ("is".toList, isWord),
    ("lambda".toList, lambdaWord), ("nonlocal".toList, nonlocalWord), ("not".toList, notWord),
    ("or".toList, orWord), ("pass".toList, passWord), ("raise".toList, raiseWord),
    ("return".toList, returnWord), ("try".toList, tryWord), ("while".toList, whileWord),
    ("with".toList, withWord), ("yield".toList, yieldWord)]

def ofText? (text : Text) : Option Keyword :=
  (all.find? fun entry => entry.1 == text).map (·.2)

end Keyword

inductive Symbol where
  | openParen | closeParen | openBracket | closeBracket | openBrace | closeBrace
  | comma | colon | semicolon | dot | ellipsis | arrow | walrus | atSign | tilde
  | assign | plusAssign | minusAssign | starAssign | slashAssign | doubleSlashAssign
  | percentAssign | atAssign | ampersandAssign | barAssign | caretAssign | leftShiftAssign
  | rightShiftAssign | doubleStarAssign
  | plus | minus | star | doubleStar | slash | doubleSlash | percent | ampersand | bar | caret
  | leftShift | rightShift
  | less | greater | lessEqual | greaterEqual | equal | notEqual
deriving DecidableEq, Repr

namespace Symbol

/-- How the symbols are spelled, the longer ones first. -/
def spellings : List (Text × Symbol) :=
  [ ("...".toList, ellipsis), ("**=".toList, doubleStarAssign), ("//=".toList, doubleSlashAssign),
    ("<<=".toList, leftShiftAssign), (">>=".toList, rightShiftAssign), ("**".toList, doubleStar),
    ("//".toList, doubleSlash), ("<<".toList, leftShift), (">>".toList, rightShift),
    ("->".toList, arrow), (":=".toList, walrus), ("==".toList, equal), ("!=".toList, notEqual),
    ("<=".toList, lessEqual), (">=".toList, greaterEqual), ("+=".toList, plusAssign),
    ("-=".toList, minusAssign), ("*=".toList, starAssign), ("/=".toList, slashAssign),
    ("%=".toList, percentAssign), ("@=".toList, atAssign), ("&=".toList, ampersandAssign),
    ("|=".toList, barAssign), ("^=".toList, caretAssign), ("(".toList, openParen),
    (")".toList, closeParen), ("[".toList, openBracket), ("]".toList, closeBracket),
    ("\x7b".toList, openBrace), ("\x7d".toList, closeBrace), (",".toList, comma),
    (":".toList, colon), (";".toList, semicolon), (".".toList, dot), ("@".toList, atSign),
    ("~".toList, tilde), ("=".toList, assign), ("+".toList, plus), ("-".toList, minus),
    ("*".toList, star), ("/".toList, slash), ("%".toList, percent), ("&".toList, ampersand),
    ("|".toList, bar), ("^".toList, caret), ("<".toList, less), (">".toList, greater)]

/-- The symbol at the start of a text and its length; the longest one wins. -/
def scan? (text : Text) : Option (Symbol × Nat) :=
  if "<>".toList.isPrefixOf text then none
  else (spellings.find? fun entry => entry.1.isPrefixOf text).map fun entry =>
    (entry.2, entry.1.length)

/-- The bracket that closes an opening one. -/
def closer? : Symbol → Option Symbol
  | openParen => some closeParen
  | openBracket => some closeBracket
  | openBrace => some closeBrace
  | _ => none

def isCloser (symbol : Symbol) : Bool :=
  symbol == closeParen || symbol == closeBracket || symbol == closeBrace

end Symbol

inductive Number where
  | integer (value : Nat)
  | real (value : Decimal)
  | imaginary (value : Decimal)
deriving DecidableEq, Repr

/-- A quoted literal as it is written: what its letters ask for and what stands in the quotes. -/
structure Quotation where
  bytes : Bool
  raw : Bool
  formatted : Bool
  body : Text
deriving DecidableEq, Repr

inductive Token where
  | name (text : Text)
  | keyword (keyword : Keyword)
  | number (number : Number)
  | quotation (quotation : Quotation)
  | symbol (symbol : Symbol)
  | newline
  | indent
  | dedent
deriving DecidableEq, Repr

end Stencil.Script
