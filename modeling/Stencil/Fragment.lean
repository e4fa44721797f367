import Stencil.CompileError
import Stencil.Script.Literal

/-!
Fragments of generated code: the text of a literal between its quotes, and a token either as a
whole expression or as a piece of such a literal.
-/

set_option autoImplicit false

namespace Stencil.Fragment

def escaped? : Char → Option Text
  | '\\' => some ['\\', '\\']
  | '\'' => some ['\\', '\'']
  | '\r' => some ['\\', 'r']
  | '\n' => some ['\\', 'n']
  | _ => none

/-- Text as it stands between the single quotes of a literal. -/
def literalBody (text : Text) : Text := Text.replaceEach escaped? text

theorem literalBody_append (left right : Text) :
    literalBody (left ++ right) = literalBody left ++ literalBody right :=
  Text.replaceEach_append escaped? left right

/-- Closes the literal around it, adds the value of an expression and opens the literal again. -/
def interrupting (expression : Text) : Text :=
  "' + ".toList ++ expression ++ " + '".toList

def stringCall (expression : Text) : Text := "str(".toList ++ expression ++ [')']

/-- A text without its first and its last character. -/
def inside (text : Text) : Text := (text.drop 1).dropLast

/-- The value of a quoted token, or what stands in its quotes if it is no literal. -/
def quotedValue (content : Text) : Except CompileError Text :=
  match Script.literal content with
  | .ok value => .ok value.display
  | .error .malformed => .ok (inside content)
  | .error .unhashable => .error .unhashableLiteral

def acceptedKinds : List TokenKind := [.bracketExpression, .quotedString, .expression, .string]

def ofExpression (expression : Text) (inString : Bool) : Text :=
  if inString then interrupting (stringCall expression) else stringCall expression

def ofText (text : Text) (inString : Bool) : Text :=
  if inString then literalBody text else Text.quoted text

/-- The code of a token, as an expression of its own or inside a literal. -/
def ofToken (token : Token) (inString : Bool) : Except CompileError Text :=
  match token.kind with
  | .expression => .ok (ofExpression token.content inString)
  | .bracketExpression => .ok (ofExpression (inside token.content) inString)
  | .quotedString =>
    if inString then (quotedValue token.content).map literalBody else .ok token.content
  | .string => .ok (ofText token.content inString)
  | .text => .ok (ofText token.content inString)
  | _ => .error (.expectedOther token acceptedKinds)

end Stencil.Fragment
