import Stencil.Yaml.Scalar

/-!
What a YAML text says: scalars, sequences and mappings, each with what kind of value it is. Plain
scalars tell their kind by how they are written.
-/

set_option autoImplicit false

namespace Stencil.Yaml

inductive Tag where
  | null | truth | integer | real | binary | moment | orderedPairs | pairs | set | text | sequence
  | mapping | merge | default | unknown
deriving DecidableEq, Repr

namespace Tag

def common : Text := "tag:yaml.org,2002:".toList

def named : List (String × Tag) :=
  [("null", null), ("bool", truth), ("int", integer), ("float", real), ("binary", binary),
    ("timestamp", moment), ("omap", orderedPairs), ("pairs", pairs), ("set", set), ("str", text),
    ("seq", sequence), ("map", mapping), ("merge", merge), ("value", default)]

def ofText (text : Text) : Tag :=
  match Text.afterStart? common text with
  | some name => ((named.find? fun entry => entry.1.toList == name).map (·.2)).getD unknown
  | none => unknown

def isTruthWord (content : Text) : Bool :=
  isWordOf ["yes", "Yes", "YES", "no", "No", "NO", "true", "True", "TRUE", "false", "False",
    "FALSE", "on", "On", "ON", "off", "Off", "OFF"] content

/-- The kind of a scalar that is not marked and not quoted. -/
def ofPlain (content : Text) : Tag :=
  let written := withoutFinalFeed content
  if written.isEmpty && !content.isEmpty then text
  else if isTruthWord written then truth
  else if looksLikeReal written then real
  else if looksLikeInteger written then integer
  else if written == ['<', '<'] then merge
  else if isWordOf ["~", "null", "Null", "NULL", ""] written then null
  else if looksLikeMoment written then moment
  else if written == ['='] then default
  else text

/-- Whether the parts of a node of this kind are nested in it. -/
def isCollection : Tag → Bool
  | orderedPairs => true
  | pairs => true
  | set => true
  | sequence => true
  | mapping => true
  | _ => false

end Tag

inductive Node where
  | scalar (tag : Tag) (content : Text)
  | sequence (tag : Tag) (items : List Node)
  | mapping (tag : Tag) (entries : List (Node × Node))
  /-- A sequence or a mapping that this is a part of. -/
  | around (isSequence : Bool)
deriving Inhabited

namespace Node

def empty : Node := scalar .null []

abbrev Pairs := List (Node × Node)

def hasTag (tag : Tag) : Node → Bool
  | scalar own _ => own == tag
  | sequence own _ => own == tag
  | mapping own _ => own == tag
  | around _ => false

/-- A key whose value is a mapping, or a sequence of them, that brings its entries in. -/
def isMergeKey (key : Node) : Bool := key.hasTag .merge

/-- A key whose value stands for the whole mapping where a scalar is read. -/
def isDefaultKey (key : Node) : Bool := key.hasTag .default

mutual

/-- The text of a node that is read as a scalar. -/
def content? : Node → Option Text
  | scalar _ content => some content
  | mapping _ entries => defaultContent? entries
  | _ => none

def defaultContent? : List (Node × Node) → Option Text
  | [] => none
  | (key, value) :: rest => if key.isDefaultKey then value.content? else defaultContent? rest

end

mutual

/-- Whether a node can be the value of a merge key. -/
def isMergeable : Node → Bool
  | mapping _ entries => areMergeable entries
  | sequence _ items => areMappings items
  | around _ => true
  | scalar _ _ => false

def areMappings : List Node → Bool
  | [] => true
  | mapping _ entries :: rest => areMergeable entries && areMappings rest
  | around false :: rest => areMappings rest
  | _ :: _ => false

/-- Whether all merge keys among some entries have values that they can have. -/
def areMergeable : List (Node × Node) → Bool
  | [] => true
  | (key, value) :: rest => (!key.isMergeKey || value.isMergeable) && areMergeable rest

end

end Node

end Stencil.Yaml
