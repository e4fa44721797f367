import Stencil.Search.Glob
import Stencil.Workspace
import Stencil.Yaml.Document

/-!
Configurations: which templates to render to which files, with which attributes, and which other
files to watch. An attribute of an entry hides the one that all entries share.
-/

set_option autoImplicit false

namespace Stencil

/-- What a configuration says of one file to write. -/
structure ConfigEntry where
  source : Path
  target : Path
  own : Datum.Entries

structure Config where
  shared : Datum.Entries
  entries : List ConfigEntry
  /-- The files that the search for files to watch has found, in order. -/
  watched : List Path

namespace Config

/-- The attributes of an entry's context: the shared ones, changed and extended by its own. -/
def attributes (config : Config) (entry : ConfigEntry) : Datum.Entries :=
  config.shared.update entry.own

def field? (fields : Datum.Entries) (name : String) : Option Datum :=
  fields.find? (.text name.toList)

/-- A value, or another one where it counts as nothing. -/
def orElse (value default : Datum) : Datum := if value.truthy then value else default

/-- The members of a datum that is a sequence of some kind. -/
def members? : Datum → Option (List Datum)
  | .text value => some (value.map fun c => .text [c])
  | .bytes value => some (value.map fun byte => .integer byte.toNat)
  | .list items => some items
  | .tuple items => some items
  | .set items => some items
  | .dict entries => some (entries.map (·.1))
  | _ => none

/-- A key and a value that are given as a sequence of two. -/
def pair (item : Datum) : Except Script.Failure (Datum × Datum) :=
  match members? item with
  | none => .error .wrongType
  | some [key, value] => if key.isHashable then .ok (key, value) else .error .wrongType
  | some _ => .error .wrongValue

/-- The entries that an entry's context adds: those of a mapping, or pairs in a sequence. -/
def additions (value : Datum) : Except Script.Failure Datum.Entries :=
  match value with
  | .dict entries => .ok entries
  | other =>
    match members? other with
    | none => .error .wrongType
    | some items => items.mapM pair

def path (base : Path) (value : Datum) : Except Script.Failure Path :=
  match value with
  | .text value => .ok (base.join (Path.ofText value))
  | _ => .error .wrongType

/-- Reads one entry of what is to be written. -/
def entry (base : Path) (reject : ConfigProblem → Fault) (value : Datum) :
    Except Fault ConfigEntry := do
  match value with
  | .dict fields =>
    match field? fields "src", field? fields "dst" with
    | some source, some target => do
      let context := orElse ((field? fields "context").getD .none) (.dict [])
      -- The context is read before the paths, so its fault comes first.
      let own ← (additions context).mapError Fault.value
      let source ← (path base source).mapError Fault.value
      let target ← (path base target).mapError Fault.value
      return ⟨source, target, own⟩
    | _, _ => .error (reject .incompleteEntry)
  | _ => .error (reject .incompleteEntry)

def globFailure : GlobFault → Script.Failure
  | .empty => .wrongValue
  | .absolute => .unsupported
  | .withoutNames => .indexOutOfRange
  | .onlyHere => .attributeMissing
  | .starsInName => .wrongValue

/-- Why something that is no text is nothing to look for. -/
def notGlob (value : Datum) : Script.Failure :=
  let slash : Datum := .text ['/']
  if !value.truthy then .wrongValue
  else match value with
  | .list items => if items.any fun item => item.sameKey slash then .attributeMissing else .wrongType
  | .tuple items => if items.any fun item => item.sameKey slash then .attributeMissing else .wrongType
  | .dict entries =>
    match Datum.Keyed.find? entries (.integer 0) with
    | none => .keyMissing
    | some first =>
      if first.sameKey slash || (Datum.Keyed.find? entries slash).isSome then .attributeMissing
      else .wrongType
  | _ => .wrongType

/-- The paths that one search finds. -/
def search (tree : FileTree) (base : Path) (value : Datum) : Except Fault (List Path) :=
  match value with
  | .text pattern =>
    match Glob.ofText pattern with
    | .ok glob => (glob.paths tree base).mapError Fault.file
    | .error fault => .error (.value (globFailure fault))
  | other => .error (.value (notGlob other))

/-- Paths in the order of their texts, each of them once. -/
def sorted (paths : List Path) : List Path :=
  (paths.eraseDups).mergeSort fun a b => Text.precedes a.display b.display

/-- Reads a configuration from the value that a file holds. -/
def ofDatum (file base : Path) (tree : FileTree) (value : Datum) : Except Fault Config := do
  let reject (problem : ConfigProblem) : Fault := .configRejected file problem
  match orElse value (.dict []) with
  | .dict fields =>
    match field? fields "write" with
    | none => .error (reject .withoutWrite)
    | some (.list writes) =>
      match orElse ((field? fields "watch").getD .none) (.list []) with
      | .list watch =>
        match orElse ((field? fields "context").getD .none) (.dict []) with
        | .dict shared => do
          -- All sections have their form checked before any entry is read.
          let entries ← writes.mapM (entry base reject)
          let found ← watch.mapM (search tree base)
          return ⟨shared, entries, sorted found.flatten⟩
        | _ => .error (reject .contextNotMapping)
      | _ => .error (reject .watchNotList)
    | some _ => .error (reject .writeNotList)
  | _ => .error (reject .notMapping)

def yamlFault : Yaml.Fault → Fault
  | .malformed => .configMalformed
  | .unreadableValue => .value .wrongValue
  | .unknownWord => .value .keyMissing
  | .emptyNumber => .value .indexOutOfRange
  | .unreadableMoment => .value .attributeMissing
  | .notScalar => .value .wrongType
  | .overflow => .value .overflow
  | .tooDeep => .value .tooDeep

/-- Loads the configuration in a file. Its paths are seen from a base. -/
def load (file base : Path) : Work Config := do
  let text ← Work.readText file
  let value ← Work.lift ((Yaml.load text).mapError yamlFault)
  Work.lift (ofDatum file base (← get).tree value)

end Config

end Stencil
