import Stencil.Text.Basic

/-!
The units of a template's source, and what a template line is made of.
-/

set_option autoImplicit false

namespace Stencil

inductive TokenKind where
  | docTypeIdentifier
  | docType
  | whiteSpace
  | elementIdentifier
  | elementIdIdentifier
  | elementClassIdentifier
  | attributeKey
  | attributeConnector
  | filterIdentifier
  | string
  | text
  | quotedString
  | expression
  | bracketExpression
  | codeIdentifier
  | lambdaVariablesIdentifier
  | lambdaVariables
  | silentCodeIdentifier
  | commentIdentifier
  | comment
deriving DecidableEq, Repr

namespace TokenKind

/-- The name that messages use. -/
def name : TokenKind → Text
  | docTypeIdentifier => "DOC_TYPE_IDENTIFIER".toList
  | docType => "DOC_TYPE".toList
  | whiteSpace => "WHITE_SPACE".toList
  | elementIdentifier => "ELEMENT_IDENTIFIER".toList
  | elementIdIdentifier => "ELEMENT_ID_IDENTIFIER".toList
  | elementClassIdentifier => "ELEMENT_CLASS_IDENTIFIER".toList
  | attributeKey => "ATTRIBUTE_KEY".toList
  | attributeConnector => "ATTRIBUTE_CONNECTOR".toList
  | filterIdentifier => "FILTER_IDENTIFIER".toList
  | string => "STRING".toList
  | text => "TEXT".toList
  | quotedString => "QUOTED_STRING".toList
  | expression => "EXPRESSION".toList
  | bracketExpression => "BRACKET_EXPRESSION".toList
  | codeIdentifier => "CODE_IDENTIFIER".toList
  | lambdaVariablesIdentifier => "LAMBDA_VARIABLES_IDENTIFIER".toList
  | lambdaVariables => "LAMBDA_VARIABLES".toList
  | silentCodeIdentifier => "SILENT_CODE_IDENTIFIER".toList
  | commentIdentifier => "COMMENT_IDENTIFIER".toList
  | comment => "COMMENT".toList

def all : List TokenKind :=
  [docTypeIdentifier, docType, whiteSpace, elementIdentifier, elementIdIdentifier,
    elementClassIdentifier, attributeKey, attributeConnector, filterIdentifier, string, text,
    quotedString, expression, bracketExpression, codeIdentifier, lambdaVariablesIdentifier,
    lambdaVariables, silentCodeIdentifier, commentIdentifier, comment]

theorem mem_all (kind : TokenKind) : kind ∈ all := by cases kind <;> decide

def ofName? (text : Text) : Option TokenKind := all.find? fun kind => kind.name == text

end TokenKind

/-- One unit of source. Lines and columns count from one, offsets from zero. -/
structure Token where
  kind : TokenKind
  content : Text
  line : Nat
  column : Nat
  offset : Nat
deriving DecidableEq, Repr

end Stencil

/-!
Bracketed expressions: braces that balance, where a quoted string hides the braces inside it.
A backslash in a string hides the character after it.
-/

namespace Stencil.Bracket

def isQuote (c : Char) : Bool := c == '"' || c == '\''

/-- The number of characters through the closing quote of a string that is already open. -/
def stringEnd? (quote : Char) : Text → Option Nat
  | [] => none
  | '\\' :: [] => none
  | '\\' :: _ :: rest => (stringEnd? quote rest).map (· + 2)
  | c :: rest => if c = quote then some 1 else (stringEnd? quote rest).map (· + 1)

/-- What is still open where the text ends. -/
inductive Fault where
  | openString (offset : Nat)
  | openBracket
deriving DecidableEq, Repr

def Fault.shift (count : Nat) : Fault → Fault
  | openString offset => openString (offset + count)
  | openBracket => openBracket

def shift (count : Nat) : Except Fault Nat → Except Fault Nat
  | .ok stop => .ok (stop + count)
  | .error fault => .error (fault.shift count)

/-- The number of characters through the brace that closes `depth + 1` open ones. -/
def closing (depth : Nat) : Text → Except Fault Nat
  | [] => .error .openBracket
  | c :: rest =>
    if isQuote c then
      match stringEnd? c rest with
      | none => .error (.openString 0)
      | some stop => shift (stop + 1) (closing depth (rest.drop stop))
    else if c = '{' then shift 1 (closing (depth + 1) rest)
    else if c = '}' then
      match depth with
      | 0 => .ok 1
      | outer + 1 => shift 1 (closing outer rest)
    else shift 1 (closing depth rest)
termination_by text => text.length
decreasing_by all_goals simp_wf <;> omega

/-- The length of the bracketed expression that the text begins with. -/
def stop (text : Text) : Except Fault Nat := shift 1 (closing 0 (text.drop 1))

theorem stringEnd?_le {quote : Char} {text : Text} {stop : Nat}
    (found : stringEnd? quote text = some stop) : 0 < stop ∧ stop ≤ text.length := by
  fun_induction stringEnd? quote text generalizing stop with
  | case1 => simp at found
  | case2 => simp at found
  | case3 _ rest ih =>
    obtain ⟨inner, same, rfl⟩ := Option.map_eq_some_iff.mp found
    have bound := ih same
    simp only [List.length_cons]
    omega
  | case4 =>
    simp only [Option.some.injEq] at found
    simp [← found]
  | case5 c rest _ _ _ ih =>
    obtain ⟨inner, same, rfl⟩ := Option.map_eq_some_iff.mp found
    have bound := ih same
    simp only [List.length_cons]
    omega

end Stencil.Bracket
