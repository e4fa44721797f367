import Stencil.Yaml.Lexer
import Stencil.Yaml.Node

/-!
Reading nodes from words. The first argument of each function that recurs bounds its steps.
-/

set_option autoImplicit false

namespace Stencil.Yaml

/-- The words that are left, the nodes that have names, what the handles of tags stand for, and how
many nodes are not complete. -/
structure Reading where
  tokens : List Token
  anchors : List (Text × Node)
  handles : List (Text × Text)
  level : Nat

namespace Reading

abbrev Read := EStateM Fault Reading

def ofTokens (tokens : List Token) : Reading := ⟨tokens, [], [], 0⟩

/-- The next word. A text that is at fault there is at fault. -/
def peek : Read Token := do
  match (← get).tokens with
  | [] => throw .malformed
  | .broken fault :: _ => throw fault
  | token :: _ => return token

def drop : Read Unit := modify fun reading => { reading with tokens := reading.tokens.drop 1 }

/-- Takes the next word if it is the given one. -/
def takeIf (token : Token) : Read Bool := do
  if (← peek) = token then
    drop
    return true
  else return false

def expect (token : Token) : Read Unit := do
  if !(← takeIf token) then throw .malformed

def isNext (tokens : List Token) : Read Bool := do return tokens.contains (← peek)

/-! ### What is in front of a node -/

structure Properties where
  anchor : Option Text
  tag : Option Text

def defaultHandles : List (Text × Text) := [(['!'], ['!']), (['!', '!'], Tag.common)]

def tagText (handle : Option Text) (suffix : Text) : Read Text := do
  match handle with
  | none => return suffix
  | some handle =>
    match (← get).handles.find? fun entry => entry.1 == handle with
    | some (_, start) => return start ++ suffix
    | none => throw .malformed

def anchor? : Read (Option Text) := do
  match ← peek with
  | .anchor name => do
    drop
    return some name
  | _ => return none

def tag? : Read (Option (Option Text × Text)) := do
  match ← peek with
  | .tag handle suffix => do
    drop
    return some (handle, suffix)
  | _ => return none

/-- A name and a tag in either order. -/
def properties : Read Properties := do
  let before ← anchor?
  let tag ← tag?
  let anchor ← match before, tag with
    | none, some _ => anchor?
    | before, _ => pure before
  match tag with
  | some (handle, suffix) => return ⟨anchor, some (← tagText handle suffix)⟩
  | none => return ⟨anchor, none⟩

namespace Properties

/-- Whether there is a tag that says what kind of value the node is. -/
def isMarked (properties : Properties) : Bool :=
  properties.tag.any fun tag => tag != ['!']

def isEmpty (properties : Properties) : Bool :=
  properties.anchor.isNone && properties.tag.isNone

def kind (properties : Properties) (unmarked : Tag) : Tag :=
  match properties.tag with
  | some tag => if tag = ['!'] then unmarked else Tag.ofText tag
  | none => unmarked

/-- The kind of a scalar; one that is not marked tells it by how it is written. -/
def scalarKind (properties : Properties) (plain : Bool) (content : Text) : Tag :=
  if properties.isMarked then properties.kind .text
  else if plain || properties.tag.isSome then Tag.ofPlain content
  else .text

end Properties

/-! ### Names of nodes -/

def setAnchor (name : Text) (node : Node) : Read Unit :=
  modify fun reading => { reading with anchors := (name, node) :: reading.anchors }

def startsMapping (token : Token) : Bool :=
  token == .blockMappingStart || token == .flowMappingStart

/-- Gives a name to a node that begins with a word and whose parts are still to be read. -/
def announce (properties : Properties) (next : Token) : Read Unit := do
  match properties.anchor with
  | none => return ()
  | some name => do
    if (← get).anchors.any fun entry => entry.1 == name then throw .malformed
    setAnchor name (.around (!startsMapping next))

def named (properties : Properties) (node : Node) : Read Node := do
  match properties.anchor with
  | none => return node
  | some name => do
    setAnchor name node
    return node

def aliased (name : Text) : Read Node := do
  match (← get).anchors.find? fun entry => entry.1 == name with
  | some (_, node) => return node
  | none => throw .malformed

/-- Nodes that are nested deeper are not read. -/
def maximalLevels : Nat := 489

/-- Reads the parts of a node. -/
def nested {α : Type} (read : Read α) : Read α := do
  if maximalLevels ≤ (← get).level then throw .tooDeep
  modify fun reading => { reading with level := reading.level + 1 }
  let found ← read
  modify fun reading => { reading with level := reading.level - 1 }
  return found

/-- Which nodes may stand at a place. -/
inductive Place where
  | inFlow
  | inBlock
  /-- A sequence need not be indented more than what it stands in. -/
  | inBlockOrEntries
deriving DecidableEq, Repr

mutual

def node : Nat → Place → Read Node
  | 0, _ => throw .malformed
  | fuel + 1, place => do
    match ← peek with
    | .reference name => do
      drop
      aliased name
    | _ => do
      let properties ← properties
      let next ← peek
      announce properties next
      match place, next with
      | .inBlockOrEntries, .blockEntry => do
        let items ← nested (entries fuel)
        named properties (.sequence (properties.kind .sequence) items)
      | _, .scalar plain content => do
        drop
        named properties (.scalar (properties.scalarKind plain content) content)
      | _, .flowSequenceStart => do
        drop
        let items ← nested (flowItems fuel true)
        named properties (.sequence (properties.kind .sequence) items)
      | _, .flowMappingStart => do
        drop
        let found ← nested (flowEntries fuel true)
        named properties (.mapping (properties.kind .mapping) found)
      | .inFlow, _ => emptyNode properties
      | _, .blockSequenceStart => do
        drop
        let items ← nested (blockItems fuel)
        named properties (.sequence (properties.kind .sequence) items)
      | _, .blockMappingStart => do
        drop
        let found ← nested (blockEntries fuel)
        named properties (.mapping (properties.kind .mapping) found)
      | _, _ => emptyNode properties

/-- A node with a name or a tag and nothing else. -/
def emptyNode (properties : Properties) : Read Node := do
  if properties.isEmpty then throw .malformed
  else named properties (.scalar (properties.scalarKind true []) [])

/-- A node, or nothing before one of the given words. -/
def nodeUnless : Nat → Place → List Token → Read Node
  | 0, _, _ => throw .malformed
  | fuel + 1, place, stops => do
    if ← isNext stops then return .empty else node fuel place

/-- The items of an indented sequence, up to its end. -/
def blockItems : Nat → Read (List Node)
  | 0 => throw .malformed
  | fuel + 1 => do
    if ← takeIf .blockEntry then
      let item ← nodeUnless fuel .inBlock [.blockEntry, .blockEnd]
      return item :: (← blockItems fuel)
    else
      expect .blockEnd
      return []

/-- The items of a sequence that is not indented. -/
def entries : Nat → Read (List Node)
  | 0 => throw .malformed
  | fuel + 1 => do
    if ← takeIf .blockEntry then
      let item ← nodeUnless fuel .inBlock [.blockEntry, .key, .value, .blockEnd]
      return item :: (← entries fuel)
    else return []

def blockEntries : Nat → Read Node.Pairs
  | 0 => throw .malformed
  | fuel + 1 => do
    if ← takeIf .key then
      let key ← nodeUnless fuel .inBlockOrEntries [.key, .value, .blockEnd]
      let value ← blockValue fuel
      return (key, value) :: (← blockEntries fuel)
    else
      expect .blockEnd
      return []

def blockValue : Nat → Read Node
  | 0 => throw .malformed
  | fuel + 1 => do
    if ← takeIf .value then nodeUnless fuel .inBlockOrEntries [.key, .value, .blockEnd]
    else return .empty

/-- What follows a node in brackets up to the next one; the first has nothing before it. -/
def flowItems : Nat → Bool → Read (List Node)
  | 0, _ => throw .malformed
  | fuel + 1, first => do
    if ← takeIf .flowSequenceEnd then return []
    if !first then expect .flowEntry
    if ← takeIf .key then
      let item ← nested (flowPair fuel)
      return .mapping .mapping [item] :: (← flowItems fuel false)
    else if ← takeIf .flowSequenceEnd then return []
    else
      let item ← node fuel .inFlow
      return item :: (← flowItems fuel false)

/-- The only entry of a mapping that has no braces. -/
def flowPair : Nat → Read (Node × Node)
  | 0 => throw .malformed
  | fuel + 1 => do
    let key ← nodeUnless fuel .inFlow [.value, .flowEntry, .flowSequenceEnd]
    let value ← flowValue fuel .flowSequenceEnd
    return (key, value)

def flowValue : Nat → Token → Read Node
  | 0, _ => throw .malformed
  | fuel + 1, stop => do
    if ← takeIf .value then nodeUnless fuel .inFlow [.flowEntry, stop] else return .empty

def flowEntries : Nat → Bool → Read Node.Pairs
  | 0, _ => throw .malformed
  | fuel + 1, first => do
    if ← takeIf .flowMappingEnd then return []
    if !first then expect .flowEntry
    if ← takeIf .key then
      let key ← nodeUnless fuel .inFlow [.value, .flowEntry, .flowMappingEnd]
      let value ← flowValue fuel .flowMappingEnd
      return (key, value) :: (← flowEntries fuel false)
    else if ← takeIf .flowMappingEnd then return []
    else
      let key ← node fuel .inFlow
      return (key, .empty) :: (← flowEntries fuel false)

end

/-! ### Documents -/

def skipEnds : Nat → Read Unit
  | 0 => return ()
  | fuel + 1 => do
    if ← takeIf .documentEnd then skipEnds fuel

/-- Reads directives. The format's version may be told once, and each handle once. -/
def directives : Nat → Bool → List (Text × Text) → Read (List (Text × Text))
  | 0, _, _ => throw .malformed
  | fuel + 1, versioned, found => do
    match ← peek with
    | .version major => do
      drop
      if versioned || major != 1 then throw .malformed
      directives fuel true found
    | .handle name start => do
      drop
      if found.any fun entry => entry.1 == name then throw .malformed
      directives fuel versioned (found ++ [(name, start)])
    | .otherDirective => do
      drop
      directives fuel versioned found
    | _ => return found

def isDirective : Token → Bool
  | .version _ => true
  | .handle _ _ => true
  | .otherDirective => true
  | _ => false

/-- The content behind a document's start mark. -/
def content (fuel : Nat) : Read Node := do
  let token ← peek
  if isDirective token || [.documentStart, .documentEnd, .streamEnd].contains token then
    return .empty
  else node fuel .inBlock

/-- The node of the only document, if there is one. -/
def document (fuel : Nat) : Read (Option Node) := do
  let token ← peek
  if token = .streamEnd then return none
  let found ←
    if isDirective token || token == .documentStart then do
      let handles ← directives fuel false []
      modify fun reading => { reading with handles := handles ++ defaultHandles }
      expect .documentStart
      content fuel
    else do
      modify fun reading => { reading with handles := defaultHandles }
      node fuel .inBlock
  skipEnds fuel
  expect .streamEnd
  return some found

end Reading

/-- The node of a text's only document, if there is one. -/
def Node.ofText? (text : Text) : Except Fault (Option Node) :=
  if !text.all isAllowed then .error .malformed
  else
    let tokens := Token.ofText text
    match Reading.document (4 * tokens.length + 8) (.ofTokens tokens) with
    | .ok found _ => .ok found
    | .error fault _ => .error fault

end Stencil.Yaml
