import Stencil.Script.Token
import Stencil.Text.Composition

/-!
Readers take words from the front of a list and give a value, or fail. A choice that fails has
taken nothing.
-/

set_option autoImplicit false

namespace Stencil.Script

abbrev Reader := StateT (List Token) Option

namespace Reader

variable {α : Type}

def peek : Reader (Option Token) := fun tokens => some (tokens.head?, tokens)

def peekSecond : Reader (Option Token) := fun tokens => some (tokens[1]?, tokens)

def skip (count : Nat) : Reader Unit := fun tokens => some ((), tokens.drop count)

/-- Takes the given word. -/
def token (expected : Token) : Reader Unit := fun tokens =>
  match tokens with
  | found :: rest => if found = expected then some ((), rest) else none
  | [] => none

def symbol (expected : Symbol) : Reader Unit := token (.symbol expected)

def keyword (expected : Keyword) : Reader Unit := token (.keyword expected)

/-- The name that a word's letters spell. Names that differ in appearance only are one name, while
keywords are told by their letters as they stand. -/
def nameOf (letters : Text) : Text := Text.composed letters

def name : Reader Text := fun tokens =>
  match tokens with
  | .name letters :: rest => some (nameOf letters, rest)
  | _ => none

def nextIs (expected : Token) : Reader Bool := fun tokens =>
  some (tokens.head? == some expected, tokens)

/-- Takes the given word if it comes next, and tells whether it did. -/
def accept (expected : Token) : Reader Bool := fun tokens =>
  match tokens with
  | found :: rest => if found = expected then some (true, rest) else some (false, tokens)
  | [] => some (false, [])

def acceptSymbol (expected : Symbol) : Reader Bool := accept (.symbol expected)

def acceptKeyword (expected : Keyword) : Reader Bool := accept (.keyword expected)

/-- Fails where the given word comes next. -/
def reject (unexpected : Token) : Reader Unit := do
  guard (!(← nextIs unexpected))

/-- Reads what may be missing; what fails to be read is not there. -/
def possibly (reader : Reader α) : Reader (Option α) := fun tokens =>
  match reader tokens with
  | some (value, rest) => some (some value, rest)
  | none => some (none, tokens)

/-- Reads on from a value as long as the step finds something, at most so many times. -/
def growUpTo (step : α → Reader (Option α)) : Nat → α → Reader α
  | 0, value => pure value
  | count + 1, value => do
    match ← step value with
    | none => pure value
    | some next => growUpTo step count next

/-- Reads on from a value as long as the step finds something. Every step takes a word, so there
are no more steps than words. -/
def grow (step : α → Reader (Option α)) (start : α) : Reader α := fun tokens =>
  growUpTo step tokens.length start tokens

/-- As many as there are. -/
def many (reader : Reader α) : Reader (List α) := do
  let found ← grow (fun found => do return (← possibly reader).map (· :: found)) []
  return found.reverse

def many1 (reader : Reader α) : Reader (List α) := do
  let first ← reader
  let others ← many reader
  return first :: others

/-- Items with a separator between them. -/
def separated (separator : Token) (item : Reader α) : Reader (List α) := do
  let first ← item
  let others ← many (do token separator; item)
  return first :: others

/-- Items with commas between them, and whether a comma follows the last one. -/
def commaList (item : Reader α) : Reader (List α × Bool) := do
  let items ← separated (.symbol .comma) item
  let trailing ← acceptSymbol .comma
  return (items, trailing)

/-- What stands between two brackets. -/
def enclosed (opening closing : Symbol) (content : Reader α) : Reader α := do
  symbol opening
  let value ← content
  symbol closing
  return value

end Reader

end Stencil.Script
