import Stencil.Yaml.Grammar
import Stencil.Yaml.Scalar

/-!
The value that a YAML text holds. Of several faults in a document the one that is nested least
counts, and of those the first.
-/

set_option autoImplicit false

namespace Stencil.Yaml

/-- Makes values and notes faults, each with how deep it is nested. -/
abbrev Build := StateM (List (Nat × Fault))

namespace Build

def fault (depth : Nat) (fault : Fault) : Build Datum := do
  modify (· ++ [(depth, fault)])
  return .none

def faultUnless (holds : Bool) (depth : Nat) : Build Unit := do
  if !holds then
    let _ ← fault depth .malformed

def ofResult (depth : Nat) (result : Except Fault Datum) : Build Datum :=
  match result with
  | .ok value => return value
  | .error found => fault depth found

/-- The first of the least nested faults. -/
def worst? (faults : List (Nat × Fault)) : Option Fault :=
  (faults.foldl (fun best entry =>
    match best with
    | some (depth, fault) => if entry.1 < depth then some entry else some (depth, fault)
    | none => some entry) none).map (·.2)

end Build

def truthOf (content : Text) : Except Fault Datum :=
  let word := content.map Char.toLower
  if isWordOf ["yes", "true", "on"] word then .ok (.bool true)
  else if isWordOf ["no", "false", "off"] word then .ok (.bool false)
  else .error .unknownWord

def momentOf (content : Text) : Except Fault Datum :=
  match written? (withoutFinalFeed content) with
  | some written => written.datum
  | none => .error .unreadableMoment

/-- The value of a scalar of a kind. Kinds of collections have no scalars. -/
def scalarDatum (tag : Tag) (content : Text) : Except Fault Datum :=
  match tag with
  | .null => .ok .none
  | .truth => truthOf content
  | .integer => (integer content).map .integer
  | .real => (real content).map .real
  | .binary => (Binary.decode content).map .bytes
  | .moment => momentOf content
  | .text => .ok (.text content)
  | _ => .error .malformed

/-- The value of a kind that is read from the default key of a mapping. -/
def mappedDatum (tag : Tag) (content : Text) : Except Fault Datum :=
  match tag with
  | .moment => .error .notScalar
  | _ => scalarDatum tag content

namespace Node

mutual

def build (depth : Nat) : Node → Build Datum
  | scalar tag content =>
    Build.ofResult (if tag.isCollection then depth + 1 else depth) (scalarDatum tag content)
  | sequence .sequence items => do return .list (← buildAll (depth + 1) items)
  | sequence .pairs items => do return .list (← buildPairs (depth + 1) items)
  | sequence .orderedPairs items => do return .list (← buildPairs (depth + 1) items)
  | sequence tag _ => Build.fault (if tag.isCollection then depth + 1 else depth) .malformed
  | mapping .mapping entries => do
    Build.faultUnless (areMergeable entries) (depth + 1)
    let brought ← buildMerged (depth + 1) [] entries
    return .dict (← buildOwn (depth + 1) brought entries)
  | mapping .set entries => do
    Build.faultUnless (areMergeable entries) (depth + 1)
    let brought ← buildMerged (depth + 1) [] entries
    return .set ((← buildOwn (depth + 1) brought entries).map (·.1))
  | mapping tag entries =>
    if tag.isCollection then Build.fault (depth + 1) .malformed
    else match defaultContent? entries with
      | some content => Build.ofResult depth (mappedDatum tag content)
      | none => Build.fault depth .malformed
  | around isSequence => return .around isSequence

def buildAll (depth : Nat) : List Node → Build (List Datum)
  | [] => return []
  | item :: rest => do
    let value ← item.build depth
    return value :: (← buildAll depth rest)

/-- Each item is a mapping with one entry. -/
def buildPairs (depth : Nat) : List Node → Build (List Datum)
  | [] => return []
  | mapping _ [(key, value)] :: rest => do
    let key ← key.build depth
    let value ← value.build depth
    return .tuple [key, value] :: (← buildPairs depth rest)
  | _ :: _ => do return [← Build.fault depth .malformed]

/-- Adds the entries of a mapping that do not come from its merge keys. The last value of a key
counts. A default key is a text like any other. -/
def buildOwn (depth : Nat) (found : Datum.Entries) : List (Node × Node) → Build Datum.Entries
  | [] => return found
  | (key, value) :: rest => do
    if key.isMergeKey then buildOwn depth found rest
    else
      let name ←
        if key.isDefaultKey then
          match key.content? with
          | some content => pure (.text content)
          | none => Build.fault depth .malformed
        else key.build depth
      Build.faultUnless (name.isHashable) depth
      let value ← value.build depth
      buildOwn depth (found.insert name value) rest

/-- Adds the entries that the merge keys of a mapping bring in. -/
def buildMerged (depth : Nat) (found : Datum.Entries) : List (Node × Node) → Build Datum.Entries
  | [] => return found
  | (key, value) :: rest => do
    let found ← if key.isMergeKey then value.buildBrought depth found else pure found
    buildMerged depth found rest

/-- Adds the entries of the value of a merge key. Of several mappings the first has the last
word. -/
def buildBrought (depth : Nat) (found : Datum.Entries) : Node → Build Datum.Entries
  | mapping _ entries => do
    let brought ← buildMerged depth found entries
    buildOwn depth brought entries
  | sequence _ items => buildLast depth found items
  | _ => return found

def buildLast (depth : Nat) (found : Datum.Entries) : List Node → Build Datum.Entries
  | [] => return found
  | item :: rest => do
    let found ← buildLast depth found rest
    item.buildBrought depth found

end

/-- The value of a node. -/
def datum (node : Node) : Except Fault Datum :=
  match node.build 0 [] with
  | (value, faults) =>
    match Build.worst? faults with
    | some fault => .error fault
    | none => .ok value

end Node

/-- The value that a text holds. An empty text holds nothing. -/
def load (text : Text) : Except Fault Datum := do
  match ← Node.ofText? text with
  | some node => node.datum
  | none => return .none

end Stencil.Yaml
