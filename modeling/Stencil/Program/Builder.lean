import Stencil.Fragment
import Stencil.Program.Basic
import Stencil.Script.Names
import Stencil.Token.Lexer

/-!
Building a program from tokens. What a line opens is closed when the indentation returns to it:
the builder keeps what is open on a stack, the innermost on top.
-/

set_option autoImplicit false

namespace Stencil

/-- What waits for the indentation to return. A block keeps the statements before it, a block that
is called also the names bound around it. -/
inductive Pending where
  | indent (depth : Nat)
  | endTag (depth : Nat) (body : Text)
  | block (depth : Nat) (header : Text) (before : List Statement)
  | call (depth : Nat) (code : Text) (number : Nat) (names : List Text)
      (before : List Statement)

def Pending.depth : Pending → Nat
  | indent depth => depth
  | endTag depth _ => depth
  | block depth _ _ => depth
  | call depth _ _ _ _ => depth

/-- The names bound in the function around a block that is called. -/
def Pending.names : Pending → List Text
  | call _ _ _ names _ => names
  | _ => []

structure Builder where
  /-- The statements of the innermost block, the last one first. -/
  body : List Statement
  /-- The names bound in the innermost function. -/
  names : List Text
  pending : List Pending
  /-- How many blocks have been called. -/
  calls : Nat

namespace Builder

def initial : Builder := ⟨[], [outputName, "self".toList], [], 0⟩

def depth (builder : Builder) : Nat :=
  match builder.pending with
  | [] => 0
  | top :: _ => top.depth

def emit (builder : Builder) (statement : Statement) : Builder :=
  { builder with body := statement :: builder.body }

def emitLine (builder : Builder) (kind : OutputKind) (content : Text) : Builder :=
  builder.emit (.line (.output ⟨kind, content, builder.depth⟩))

def push (builder : Builder) (pending : Pending) : Builder :=
  { builder with pending := pending :: builder.pending }

/-! ### Closing -/

/-- The statement that hands a block over to the code that was written for it. -/
def callStatement (depth : Nat) (code : Text) (number : Nat) : Text :=
  appending (literalOf (Text.spaces depth) ++ " + str((".toList ++ code ++ ")(".toList ++
    Statement.blockName number ++ "))".toList)

/-- The names of a block that are bound around it too. -/
def sharedNames (inner : List Text) (outer : List Text) : List Text :=
  Text.sortUnique (inner.filter outer.contains)

/-- Closes what is on top of the stack, given what is below it. -/
def closeTop (builder : Builder) (rest : List Pending) : Pending → Builder
  | .indent _ => { builder with pending := rest }
  | .endTag depth body =>
    { builder with body := .line (.output ⟨.safe, body, depth⟩) :: builder.body, pending := rest }
  | .block _ header before =>
    -- Bodies are held in reverse until they are closed.
    { builder with body := .block header builder.body.reverse :: before, pending := rest }
  | .call depth code number names before =>
    let shared := sharedNames builder.names (names ++ rest.flatMap Pending.names)
    -- The block becomes a function, which has to stand before the call that takes it.
    let function := Statement.function number shared builder.body.reverse
    { builder with
      body := .control (callStatement depth code number) :: function :: before
      names := names
      pending := rest }

/-- Closes the stack from its top as long as what is there is at least so deep. -/
def closeStack (downTo : Nat) : List Pending → Builder → Builder
  | [], builder => { builder with pending := [] }
  | top :: rest, builder =>
    if downTo ≤ top.depth then closeStack downTo rest (builder.closeTop rest top)
    else { builder with pending := top :: rest }

def closeTo (builder : Builder) (downTo : Nat) : Builder :=
  closeStack downTo builder.pending builder

/-! ### What comes next -/

/-- Whether the next line is indented deeper than what is on top of the stack. -/
def goesDeeper (builder : Builder) : List Token → Bool
  | [] => false
  | token :: _ => token.kind == .whiteSpace && builder.depth < token.content.length

/-- Whether what is on top of the stack ends here. -/
def endsHere (builder : Builder) : List Token → Bool
  | [] => true
  | token :: _ => token.kind == .whiteSpace && token.content.length ≤ builder.depth

/-- Takes a token of one of the kinds, if one comes next. -/
def take? (kinds : List TokenKind) : List Token → Option (Token × List Token)
  | [] => none
  | token :: rest => if kinds.contains token.kind then some (token, rest) else none

/-- Takes a token of one of the kinds, which has to come next. -/
def expect (kinds : List TokenKind) : List Token → Except CompileError (Token × List Token)
  | [] => .error .unexpectedEnd
  | token :: rest =>
    if kinds.contains token.kind then .ok (token, rest)
    else .error (.expectedOther token kinds)

/-! ### Tags -/

def tagValueKinds : List TokenKind := [.bracketExpression, .string]

def attributeValueKinds : List TokenKind := [.bracketExpression, .quotedString, .string]

structure Tag where
  element : Option Token
  id : Option Token
  classes : Option Token
  attributes : List (Token × Token)

/-- A sign and the value behind it, if the sign comes next. -/
def signedValue (sign : TokenKind) (tokens : List Token) :
    Except CompileError (Option Token × List Token) :=
  match take? [sign] tokens with
  | none => .ok (none, tokens)
  | some (_, rest) => do
    let (value, rest) ← expect tagValueKinds rest
    return (some value, rest)

def attributes : List Token → Except CompileError (List (Token × Token) × List Token)
  | [] => .ok ([], [])
  | name :: rest =>
    if tagValueKinds.contains name.kind then
      match rest with
      | [] => .error .unexpectedEnd
      | connector :: rest =>
        if connector.kind = .attributeConnector then
          match rest with
          | [] => .error .unexpectedEnd
          | value :: rest =>
            if attributeValueKinds.contains value.kind then do
              let (others, last) ← attributes rest
              return ((name, value) :: others, last)
            else .error (.expectedOther value attributeValueKinds)
        else .error (.expectedOther connector [.attributeConnector])
    else .ok ([], name :: rest)

/-- The tag that comes next, if one does. -/
def tag? (tokens : List Token) : Except CompileError (Option Tag × List Token) := do
  let (element, rest) ← signedValue .elementIdentifier tokens
  let (id, rest) ← signedValue .elementIdIdentifier rest
  let (classes, rest) ← signedValue .elementClassIdentifier rest
  if element.isNone && id.isNone && classes.isNone then return (none, rest)
  else
    let (pairs, rest) ← attributes rest
    return (some ⟨element, id, classes, pairs⟩, rest)

/-- The insides of the literals for a tag's name and for the attributes of its start. -/
structure TagText where
  name : Text
  attributes : Text

def attributeText (name value : Text) : Text := ' ' :: name ++ "=\"".toList ++ value ++ ['"']

def fixedAttribute (name : Text) : Option Token → Except CompileError Text
  | none => .ok []
  | some value => (Fragment.ofToken value true).map (attributeText name)

def freeAttribute (pair : Token × Token) : Except CompileError Text := do
  let name ← Fragment.ofToken pair.1 true
  let value ← Fragment.ofToken pair.2 true
  return attributeText name value

def tagText (tag : Tag) : Except CompileError TagText := do
  let name ← match tag.element with
    | none => .ok "div".toList
    | some value => Fragment.ofToken value true
  let id ← fixedAttribute "id".toList tag.id
  let classes ← fixedAttribute "class".toList tag.classes
  let others ← tag.attributes.mapM freeAttribute
  return ⟨name, id ++ classes ++ others.flatten⟩

def TagText.start (text : TagText) : Text := '<' :: text.name ++ text.attributes ++ ['>']

def TagText.stop (text : TagText) : Text := "</".toList ++ text.name ++ ['>']

/-! ### Content -/

/-- What a line says behind its tag. -/
inductive Content where
  | absent
  | output (kind : OutputKind) (body : Text)
  | statement (code : Text)
  | block (header : Text)
  | call (code : Text)

/-- The header of a block: a statement that ends in a colon. -/
def headerOf (code : Text) : Text :=
  let trimmed := Text.trimRight code
  if trimmed.getLast? = some ':' then trimmed else trimmed ++ [':']

def comment (token : Token) : Content :=
  .output .safe ("<!-- ".toList ++ Fragment.literalBody token.content ++ " -->".toList)

/-- The content that comes next. Code with deeper lines below it is given those as a block. -/
def content (builder : Builder) (tokens : List Token) :
    Except CompileError (Content × List Token) :=
  match tokens with
  | [] => .ok (.absent, [])
  | token :: rest =>
    match token.kind with
    | .codeIdentifier => do
      let (code, rest) ← expect [.expression] rest
      if builder.goesDeeper rest then return (.call code.content, rest)
      else return (.output .expression (Fragment.ofExpression code.content false), rest)
    | .silentCodeIdentifier => do
      let (code, rest) ← expect [.expression] rest
      if builder.goesDeeper rest then return (.block (headerOf code.content), rest)
      else return (.statement code.content, rest)
    | .commentIdentifier => do
      let (note, rest) ← expect [.comment] rest
      return (comment note, rest)
    | .comment => .ok (comment token, rest)
    | .text => .ok (.output .escaped (Fragment.literalBody token.content), rest)
    -- Whatever cannot begin content is left for the next line, which reports it.
    | _ => .ok (.absent, tokens)

/-- Remembers the names that a statement binds. -/
def bind (builder : Builder) (statement : Text) : Except CompileError Builder :=
  match Script.assignedNames statement with
  | .ok names => .ok { builder with names := builder.names ++ names }
  | .error .tooDeep => .error .deepCode
  | .error _ => .error .unreadableCode

def add (builder : Builder) : Content → Except CompileError Builder
  | .absent => .ok builder
  | .output kind body => .ok (builder.emitLine kind body)
  | .statement code => do
    let builder ← builder.bind code
    return builder.emit (.control code)
  | .block header => do
    let builder ← builder.bind header
    return { builder with
      body := []
      pending := .block builder.depth header builder.body :: builder.pending }
  | .call code => .ok { builder with
      body := []
      names := []
      pending := .call builder.depth code builder.calls builder.names builder.body ::
        builder.pending
      calls := builder.calls + 1 }

/-- A start tag, inline output and an end tag as one expression. -/
def fused (text : TagText) (kind : OutputKind) (body : Text) : Text :=
  let parts : List Output := [⟨.safe, text.start, 0⟩, ⟨kind, body, 0⟩, ⟨.safe, text.stop, 0⟩]
  Text.join " + ".toList (parts.map Output.expression)

/-- Opens a tag whose end waits on the stack. -/
def openTag (builder : Builder) (text : TagText) : Builder :=
  (builder.emitLine .safe text.start).push (.endTag builder.depth text.stop)

/-- Adds a tag and its content. A tag that ends on its line is one entry with its content. -/
def addTagged (builder : Builder) (text : TagText) (content : Content)
    (after : List Token) : Except CompileError Builder :=
  match content with
  | .output kind body =>
    if builder.endsHere after then
      .ok (builder.emitLine .expression (fused text kind body))
    -- Deeper lines follow, so the end tag waits for them.
    else (builder.openTag text).add content
  | _ => (builder.openTag text).add content

/-! ### Lines -/

/-- Closes what the indentation of a new line ends. -/
def indented (builder : Builder) (tokens : List Token) : Builder × List Token :=
  match take? [.whiteSpace] tokens with
  | none => (builder, tokens)
  | some (token, rest) =>
    let depth := token.content.length
    ((builder.closeTo depth).push (.indent depth), rest)

/-- One line of the template: its indentation, its tag and its content, each of them optional. -/
def step (builder : Builder) (tokens : List Token) :
    Except CompileError (Builder × List Token) := do
  let (builder, rest) := builder.indented tokens
  match ← tag? rest with
  | (none, rest) =>
    let (content, rest) ← builder.content rest
    return (← builder.add content, rest)
  | (some tag, rest) =>
    let text ← tagText tag
    if builder.endsHere rest then
      -- A tag with nothing in it is closed at once.
      return (builder.emitLine .safe (text.start ++ text.stop), rest)
    else
      let (content, rest) ← builder.content rest
      return (← builder.addTagged text content rest, rest)

/-- Runs over all lines. A line that takes no token has met one that nothing can be made of. -/
def run (builder : Builder) (tokens : List Token) : Except CompileError Builder :=
  match tokens with
  | [] => .ok builder
  | token :: others => do
    let (next, rest) ← builder.step (token :: others)
    if rest.length ≤ others.length then run next rest else .error (.unexpectedToken token)
termination_by tokens.length

/-- A document type, which may only come first. -/
def docType (builder : Builder) (tokens : List Token) :
    Except CompileError (Builder × List Token) :=
  match take? [.docTypeIdentifier] tokens with
  | none => .ok (builder, tokens)
  | some (identifier, rest) =>
    let (type, rest) := match take? [.docType] rest with
      | none => (none, rest)
      | some (type, rest) => (some type, rest)
    match DocType.declaration? (type.map (·.content)) with
    | some declaration => .ok (builder.emitLine .safe (Fragment.literalBody declaration), rest)
    | none => .error (.unexpectedDocType (type.getD identifier))

end Builder

namespace Program

/-- The program for the given tokens. -/
def ofTokens (tokens : List Token) (contextType : Text) : Except CompileError Program := do
  let (builder, rest) ← Builder.initial.docType tokens
  let builder ← builder.run rest
  return ⟨contextType, (builder.closeTo 0).body.reverse⟩

/-- The program for a template's source. -/
def ofSource (source contextType : Text) : Except CompileError Program := do
  ofTokens (← Lexer.lex source) contextType

end Program

end Stencil
