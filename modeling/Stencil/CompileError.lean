import Stencil.Text.Point
import Stencil.Token

/-!
Why a template does not compile, and what is said about it.
-/

set_option autoImplicit false

namespace Stencil

/-- What is wrong with a line that cannot be cut into tokens. -/
inductive LexicalFault where
  | unexpectedCharacter (c : Char)
  | nameExpected
  | attributeValueExpected
  | unterminatedString
  | unterminatedExpression
deriving DecidableEq, Repr

def LexicalFault.message : LexicalFault → Text
  | unexpectedCharacter c =>
      "Unexpected character ".toList ++ Text.quoted [c] ++ " in tag.".toList
  | nameExpected => "Expected a name or a \x7bbracketed expression\x7d.".toList
  | attributeValueExpected => "Expected an attribute value.".toList
  | unterminatedString => "Unterminated string.".toList
  | unterminatedExpression => "Unterminated expression.".toList

inductive CompileError where
  | invalidSyntax (fault : LexicalFault) (line column : Nat)
  | unexpectedDocType (token : Token)
  | unexpectedToken (token : Token)
  | expectedOther (token : Token) (expected : List TokenKind)
  | unexpectedEnd
  /-- Code with a NUL character cannot be read at all. -/
  | unreadableCode
  /-- Code that is nested too deeply is not looked into. -/
  | deepCode
  /-- A literal that collects values which cannot be collected. -/
  | unhashableLiteral
deriving DecidableEq, Repr

namespace CompileError

def position (line column : Nat) : Text :=
  "Koreander Compile Error (Line ".toList ++ Text.decimal line ++ ", Column ".toList ++
    Text.decimal column ++ "): ".toList

def located (token : Token) : Text := position token.line token.column

/-- The names of the kinds in order, each of them once. -/
def expectedNames (expected : List TokenKind) : List Text :=
  Text.sortUnique (expected.map TokenKind.name)

/-- The token at fault, where one is. -/
def token? : CompileError → Option Token
  | unexpectedDocType token => some token
  | unexpectedToken token => some token
  | expectedOther token _ => some token
  | _ => none

/-- What is said about an error of the template itself; code at fault has no text here. -/
def message? : CompileError → Option Text
  | invalidSyntax fault line column => some (position line column ++ fault.message)
  | unexpectedDocType token =>
      some (located token ++ "Unknown doctype ".toList ++ Text.quoted token.content ++ ['.'])
  | unexpectedToken token =>
      some (located token ++ "Unexpected ".toList ++ token.kind.name ++ [' '] ++
        Text.quoted token.content ++ ['.'])
  | expectedOther token expected =>
      some (located token ++ "Expected one of \x7b".toList ++
        Text.join ", ".toList (expectedNames expected) ++ "\x7d but found ".toList ++
        token.kind.name ++ [' '] ++ Text.quoted token.content ++ ['.'])
  | unexpectedEnd => some "Koreander Compile Error: Unexpected end of input.".toList
  | unreadableCode => none
  | deepCode => none
  | unhashableLiteral => none

end CompileError

end Stencil
