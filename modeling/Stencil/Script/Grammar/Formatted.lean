import Stencil.Script.Escape
import Stencil.Script.Syntax

/-!
The insides of formatted strings: fixed text, in which doubled braces stand for single ones, and
fields in braces, each an expression with an optional conversion and an optional format.
-/

set_option autoImplicit false

namespace Stencil.Script.Formatted

abbrev Part := FormatPart Expr

/-- Fixed text as far as the next field or the end of a format: the text with its escapes, and
what is left. Inside a format there are no doubled braces. -/
def fixedText (raw nested : Bool) : Nat → Text → Option (Text × Text)
  | 0, _ => none
  | _ + 1, [] => some ([], [])
  | fuel + 1, '\\' :: 'N' :: rest =>
    if raw then add ['\\'] (fixedText raw nested fuel ('N' :: rest))
    else
      let named := match rest with
        | '{' :: inside => (inside.takeWhile (· != '}')).length + 2
        | _ => 0
      add ('\\' :: 'N' :: rest.take named) (fixedText raw nested fuel (rest.drop named))
  | fuel + 1, '\\' :: c :: rest =>
    if raw || c == '{' || c == '}' then add ['\\'] (fixedText raw nested fuel (c :: rest))
    else add ['\\', c] (fixedText raw nested fuel rest)
  | fuel + 1, c :: rest =>
    if c == '{' || c == '}' then
      if nested then some ([], c :: rest)
      else if rest.head? == some c then add [c] (fixedText raw nested fuel (rest.drop 1))
      else if c == '}' then none
      else some ([], c :: rest)
    else add [c] (fixedText raw nested fuel rest)
where
  add (front : Text) (result : Option (Text × Text)) : Option (Text × Text) :=
    result.map fun (text, rest) => (front ++ text, rest)

structure FieldScan where
  /-- The quote of the string that is open, three of it or one. -/
  quote : Option (Char × Bool)
  closers : List Char

def closer? : Char → Option Char
  | '(' => some ')'
  | '[' => some ']'
  | '{' => some '}'
  | _ => none

/-- The expression of a field, up to the sign that ends it. -/
def fieldText : Nat → FieldScan → Text → Option (Text × Text)
  | 0, _, _ => none
  | _ + 1, _, [] => none
  | fuel + 1, state, c :: rest =>
    let take (count : Nat) (state : FieldScan) : Option (Text × Text) :=
      (fieldText fuel state (rest.drop (count - 1))).map fun (text, after) =>
        (c :: rest.take (count - 1) ++ text, after)
    if c == '\\' then none
    else match state.quote with
    | some (quote, triple) =>
      if c != quote then take 1 state
      else if !triple then take 1 { state with quote := none }
      else if [c, c].isPrefixOf rest then take 3 { state with quote := none }
      else take 1 state
    | none =>
      if c == '\'' || c == '"' then
        if [c, c].isPrefixOf rest then take 3 { state with quote := some (c, true) }
        else take 1 { state with quote := some (c, false) }
      else match closer? c with
      | some closer => take 1 { state with closers := closer :: state.closers }
      | none =>
        if c == '#' then none
        else match state.closers with
        | [] =>
          if (c == '!' || c == '=' || c == '<' || c == '>') && rest.head? == some '=' then
            take 2 state
          else if c == '!' || c == ':' || c == '}' || c == '=' then some ([], c :: rest)
          else if c == ']' || c == ')' then none
          else take 1 state
        | innermost :: outer =>
          if c == innermost then take 1 { state with closers := outer }
          else if c == ']' || c == ')' || c == '}' then none
          else take 1 state

def isExpressionBlank (c : Char) : Bool := c == ' ' || c == '\t' || c == '\n' || c == '\x0c'

/-- An equals sign behind the expression shows the expression's own text too. -/
def shownText (expression : Text) : Text → Option Points × Text
  | '=' :: rest =>
    let gap := rest.takeWhile fun c => isExpressionBlank c || c == '\x0b' || c == '\r'
    (some (Points.ofText (expression ++ '=' :: gap)), rest.drop gap.length)
  | rest => (none, rest)

def conversion? : Text → Option (Option Char × Text)
  | '!' :: c :: rest => if c == 's' || c == 'r' || c == 'a' then some (some c, rest) else none
  | '!' :: [] => none
  | rest => some (none, rest)

/-- What fixed text says. -/
def meaning? (raw : Bool) (fixed : Text) : Option Points :=
  if raw then some (Points.ofText fixed) else Escape.unescape? fixed

/-- The format of a field, if a colon introduces one. -/
def format? (parts : Text → Option (List Part × Text)) : Text → Option (Option Expr × Text)
  | ':' :: spec => (parts spec).map fun (inner, after) => (some (.formatted inner), after)
  | rest => some (none, rest)

/-- A field that shows its own text shows its value as it would be written. -/
def conversionOf (shown : Option Points) (conversion : Option Char) (format : Option Expr) :
    Option Char :=
  if shown.isSome && format.isNone && conversion.isNone then some 'r' else conversion

/-- The parts of a text up to its end, or up to the brace that ends a format. -/
def parts (read : Text → Option Expr) (raw : Bool) : Nat → Nat → Text →
    Option (List Part × Text)
  | 0, _, _ => none
  | fuel + 1, level, text => do
    let (fixed, rest) ← fixedText raw (0 < level) (text.length + 1) text
    let meant ← meaning? raw fixed
    let start : List Part := if meant.isEmpty then [] else [.fixed meant]
    match rest with
    | '{' :: inside => do
      guard (level < 2)
      let (expression, rest) ← fieldText (inside.length + 1) ⟨none, []⟩ inside
      guard (!expression.all isExpressionBlank)
      let value ← read expression
      let (shown, rest) := shownText expression rest
      let (conversion, rest) ← conversion? rest
      let (format, rest) ← format? (parts read raw fuel (level + 1)) rest
      match rest with
      | '}' :: after => do
        let field : Part := .field value (conversionOf shown conversion format) format
        let (others, last) ← parts read raw fuel level after
        return (start ++ (shown.map FormatPart.fixed).toList ++ field :: others, last)
      | _ => none
    | _ => return (start, rest)

/-- The parts of a formatted string, all of whose text belongs to them. -/
def parts? (read : Text → Option Expr) (raw : Bool) (text : Text) : Option (List Part) := do
  let (found, rest) ← parts read raw (text.length + 1) 0 text
  guard rest.isEmpty
  return found

end Stencil.Script.Formatted
