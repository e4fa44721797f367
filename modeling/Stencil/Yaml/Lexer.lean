import Stencil.Yaml.Scanner

/-!
Cutting a text into words. Indentation becomes words of its own. A scalar may turn out to be a key
once the colon behind it is met; the word that says so is then put in front of it.
-/

set_option autoImplicit false

namespace Stencil.Yaml

/-- Where a key may have begun. -/
structure Candidate where
  /-- How many words were before it. -/
  position : Nat
  /-- Whether nothing else than a key may stand there. -/
  needed : Bool
  index : Nat
  line : Nat
  column : Nat
deriving DecidableEq, Repr

structure Lexer where
  cursor : Cursor
  tokens : Array Token
  /-- How many brackets are open. -/
  depth : Nat
  /-- The column of the innermost block, which is below zero outside of all blocks. -/
  indent : Int
  outer : List Int
  keyAllowed : Bool
  /-- Where a key may have begun, by the number of open brackets. -/
  candidates : List (Nat × Candidate)
deriving Repr

namespace Lexer

abbrev Step := EStateM Fault Lexer

def ofText (text : Text) : Lexer := ⟨.ofText text, #[], 0, -1, [], true, []⟩

def emit (token : Token) : Step Unit :=
  modify fun lexer => { lexer with tokens := lexer.tokens.push token }

def insertAt (position : Nat) (token : Token) : Step Unit :=
  modify fun lexer => { lexer with tokens := lexer.tokens.insertIdxIfInBounds position token }

def goTo (rest : Text) : Step Unit :=
  modify fun lexer => { lexer with cursor := lexer.cursor.goTo rest }

def advance (count : Nat) : Step Unit :=
  modify fun lexer => { lexer with cursor := Cursor.skip count lexer.cursor }

def allowKey (allowed : Bool) : Step Unit :=
  modify fun lexer => { lexer with keyAllowed := allowed }

def malformedIf (wrong : Bool) : Step Unit := do
  if wrong then throw .malformed

/-- Forgets the keys that the current place is too far from. -/
def dropStale : Step Unit := do
  let lexer ← get
  -- A key ends on its line, and within 1024 characters.
  let isStale (candidate : Candidate) : Bool :=
    candidate.line != lexer.cursor.line || decide (1024 < lexer.cursor.index - candidate.index)
  malformedIf (lexer.candidates.any fun entry => isStale entry.2 && entry.2.needed)
  set { lexer with candidates := lexer.candidates.filter fun entry => !isStale entry.2 }

def candidate? (lexer : Lexer) : Option Candidate :=
  (lexer.candidates.find? fun entry => entry.1 == lexer.depth).map (·.2)

def forgetCandidate : Step Unit := do
  let lexer ← get
  malformedIf (lexer.candidate?.any (·.needed))
  set { lexer with candidates := lexer.candidates.filter fun entry => entry.1 != lexer.depth }

/-- Remembers that a key may begin here. -/
def noteCandidate : Step Unit := do
  if (← get).keyAllowed then
    forgetCandidate
    let lexer ← get
    let cursor := lexer.cursor
    let needed := lexer.depth == 0 && lexer.indent == (cursor.column : Int)
    let candidate : Candidate :=
      ⟨lexer.tokens.size, needed, cursor.index, cursor.line, cursor.column⟩
    set { lexer with candidates := (lexer.depth, candidate) :: lexer.candidates }

/-- Closes the blocks that are indented by more than a column. -/
def closeBlocks (column : Int) : List Int → Int → List Int × Int × Nat
  | [], indent => if column < indent then ([], -1, 1) else ([], indent, 0)
  | next :: outer, indent =>
    if column < indent then
      let (outer, indent, count) := closeBlocks column outer next
      (outer, indent, count + 1)
    else (next :: outer, indent, 0)

def unwind (column : Int) : Step Unit :=
  modify fun lexer =>
    if lexer.depth = 0 then
      let (outer, indent, count) := closeBlocks column lexer.outer lexer.indent
      { lexer with
        outer := outer
        indent := indent
        tokens := lexer.tokens ++ Array.replicate count Token.blockEnd }
    else lexer

/-- Opens a block at a column, and tells whether it was not open yet. -/
def openBlock (column : Nat) : Step Bool := do
  let lexer ← get
  if lexer.indent < (column : Int) then
    set { lexer with outer := lexer.indent :: lexer.outer, indent := (column : Int) }
    return true
  else return false

/-- Skips spaces, comments and breaks. -/
def skipGaps : Nat → Step Unit
  | 0 => return ()
  | fuel + 1 => do
    let text := skipSpaces (← get).cursor.rest
    let text := if text.head? = some '#' then toLineEnd text else text
    goTo text
    match break? text with
    | some (_, rest) => do
      goTo rest
      -- Between brackets a new line means nothing.
      if (← get).depth = 0 then allowKey true
      skipGaps fuel
    | none => return ()

def finish : Step Unit := do
  unwind (-1)
  forgetCandidate
  emit .streamEnd

def directive : Step Unit := do
  unwind (-1)
  forgetCandidate
  allowKey false
  match scanDirective ((← get).cursor.rest.drop 1) with
  | .ok (token, rest) => do
    goTo rest
    emit token
  | .error fault => throw fault

def documentMark (token : Token) : Step Unit := do
  unwind (-1)
  forgetCandidate
  allowKey false
  advance 3
  emit token

def flowStart (token : Token) : Step Unit := do
  noteCandidate
  modify fun lexer => { lexer with depth := lexer.depth + 1, keyAllowed := true }
  advance 1
  emit token

def flowEnd (token : Token) : Step Unit := do
  forgetCandidate
  modify fun lexer => { lexer with depth := lexer.depth - 1, keyAllowed := false }
  advance 1
  emit token

def flowEntry : Step Unit := do
  allowKey true
  forgetCandidate
  advance 1
  emit .flowEntry

/-- Opens a block for an entry or key that begins here, if a block is what it stands in. -/
def beginEntry (start : Token) : Step Unit := do
  let lexer ← get
  if lexer.depth = 0 then
    malformedIf (!lexer.keyAllowed)
    if ← openBlock lexer.cursor.column then emit start

def blockEntry : Step Unit := do
  beginEntry .blockSequenceStart
  allowKey true
  forgetCandidate
  advance 1
  emit .blockEntry

def key : Step Unit := do
  beginEntry .blockMappingStart
  allowKey ((← get).depth == 0)
  forgetCandidate
  advance 1
  emit .key

def value : Step Unit := do
  let lexer ← get
  match lexer.candidate? with
  | some candidate => do
    set { lexer with candidates := lexer.candidates.filter fun entry => entry.1 != lexer.depth }
    -- What was read before the colon turns out to be a key.
    insertAt candidate.position .key
    if lexer.depth = 0 then
      if ← openBlock candidate.column then insertAt candidate.position .blockMappingStart
    allowKey false
  | none => do
    beginEntry .blockMappingStart
    allowKey (lexer.depth == 0)
    forgetCandidate
  advance 1
  emit .value

/-- A word that a key may begin with. -/
def scanned {α : Type} (scan : Text → Except Fault (α × Text)) (token : α → Token) : Step Unit := do
  noteCandidate
  allowKey false
  match scan (← get).cursor.rest with
  | .ok (found, rest) => do
    goTo rest
    emit (token found)
  | .error fault => throw fault

def blockScalar (folded : Bool) : Step Unit := do
  allowKey true
  forgetCandidate
  let lexer ← get
  match Block.scalar folded lexer.indent (lexer.cursor.rest.drop 1) with
  | .ok (content, rest) => do
    goTo rest
    emit (.scalar false content)
  | .error fault => throw fault

def plain : Step Unit := do
  noteCandidate
  let lexer ← get
  let found := Plain.scalar (lexer.depth != 0) (lexer.indent + 1) lexer.cursor
  -- Behind a scalar that ends with its line a key may begin.
  set { lexer with cursor := found.cursor, keyAllowed := found.broken }
  emit (.scalar true found.content)

/-- Whether a scalar without quotes may begin here. -/
def startsPlain (flow : Bool) (c : Char) (rest : Text) : Bool :=
  !(isGap c || "-?:,[]\x7b\x7d#&*!|>'\"%@\x60".toList.contains c) ||
    !endsOr isGap rest && (c == '-' || !flow && (c == '?' || c == ':'))

/-- Reads one word, and tells whether it was not the end. -/
def step : Step Bool := do
  skipGaps ((← get).cursor.rest.length + 1)
  dropStale
  -- The column of a line's first word closes the blocks that are indented deeper.
  unwind (← get).cursor.column
  let lexer ← get
  let flow := lexer.depth != 0
  let text := lexer.cursor.rest
  let first := lexer.cursor.column == 0
  match text with
  | [] => do
    finish
    return false
  | c :: rest => do
    if first && c == '%' then directive
    else if first && isMarker startMark text then documentMark .documentStart
    else if first && isMarker endMark text then documentMark .documentEnd
    else if c == '[' then flowStart .flowSequenceStart
    else if c == '{' then flowStart .flowMappingStart
    else if c == ']' then flowEnd .flowSequenceEnd
    else if c == '}' then flowEnd .flowMappingEnd
    else if c == ',' then flowEntry
    else if c == '-' && endsOr isGap rest then blockEntry
    else if c == '?' && (flow || endsOr isGap rest) then key
    else if c == ':' && (flow || endsOr isGap rest) then value
    else if c == '*' then scanned (fun text => scanAnchor (text.drop 1)) .reference
    else if c == '&' then scanned (fun text => scanAnchor (text.drop 1)) .anchor
    else if c == '!' then scanned scanTag fun tag => .tag tag.1 tag.2
    else if c == '|' && !flow then blockScalar false
    else if c == '>' && !flow then blockScalar true
    else if c == '\'' then
      scanned (fun text => Quoted.scalar '\'' (text.drop 1)) (.scalar false)
    else if c == '"' then
      scanned (fun text => Quoted.scalar '"' (text.drop 1)) (.scalar false)
    else if startsPlain flow c rest then plain
    else throw .malformed
    return true

/-- The words in front of all places where a key may have begun. What comes from there on is open
until the text behind it is read. -/
def settled (lexer : Lexer) : Array Token :=
  lexer.tokens.take
    (lexer.candidates.foldl (fun least entry => min least entry.2.position) lexer.tokens.size)

def run : Nat → Lexer → Array Token
  | 0, lexer => lexer.tokens.push (.broken .malformed)
  | fuel + 1, lexer =>
    match step lexer with
    | .ok true lexer => run fuel lexer
    | .ok false lexer => lexer.tokens
    | .error fault lexer => lexer.settled.push (.broken fault)

end Lexer

/-- The words of a text, up to its end or to where it is at fault. -/
def Token.ofText (text : Text) : List Token :=
  let text := if text.head? = some Cursor.orderMark then text.drop 1 else text
  (Lexer.run (text.length + 2) (.ofText text)).toList

end Stencil.Yaml
