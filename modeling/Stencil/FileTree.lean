import Stencil.Path
import Stencil.Text.Basic

/-!
The files and directories that a run works on. A place is the list of the names that lead to it
from the root.
-/

set_option autoImplicit false

namespace Stencil

abbrev Place := List Text

-- Bytes are compared as in the core library, also where an import knows another way.
attribute [local instance (2000)] ByteArray.instDecidableEq

inductive Node where
  | directory
  | file (content : ByteArray)
deriving DecidableEq

/-- What there is at each place below the root, and the place from which paths are read. -/
structure FileTree where
  nodes : List (Place × Node)
  home : Place

/-- Why an operation on files fails. -/
inductive FileFault where
  | missing
  | notDirectory
  | isDirectory
  | exists
  | nameTooLong
  | nul
deriving DecidableEq, Repr

namespace FileTree

/-- What there is at a place. The root is always a directory. -/
def node? (tree : FileTree) (place : Place) : Option Node :=
  if place = [] then some .directory
  else (tree.nodes.find? fun entry => entry.1 == place).map (·.2)

/-- Puts something at a place, instead of what was there. -/
def put (tree : FileTree) (place : Place) (node : Node) : FileTree :=
  { tree with nodes := (tree.nodes.filter fun entry => entry.1 != place) ++ [(place, node)] }

def erase (tree : FileTree) (place : Place) : FileTree :=
  { tree with nodes := tree.nodes.filter fun entry => entry.1 != place }

/-- Puts a directory at a place and at all places on the way to it. -/
def ofHome (home : Place) : FileTree :=
  ⟨(List.range home.length).map fun length => (home.take (length + 1), .directory), home⟩

/-- What there is directly below a place. -/
def entries (tree : FileTree) (place : Place) : List (Text × Node) :=
  tree.nodes.filterMap fun entry =>
    match entry.1.getLast? with
    | some name => if entry.1 = place ++ [name] then some (name, entry.2) else none
    | none => none

theorem node?_put (tree : FileTree) (place other : Place) (node : Node) (below : place ≠ []) :
    (tree.put place node).node? other =
      if other = place then some node else tree.node? other := by
  unfold node? put
  by_cases root : other = []
  next => simp [root, Ne.symm below]
  next =>
    by_cases same : other = place
    next =>
      have : (tree.nodes.filter fun entry => entry.1 != place).find?
          (fun entry => entry.1 == place) = none := by
        simp [List.find?_eq_none]
      simp [same, below, this]
    next =>
      have kept : (tree.nodes.filter fun entry => entry.1 != place).find?
          (fun entry => entry.1 == other) =
          tree.nodes.find? (fun entry => entry.1 == other) := by
        rw [List.find?_filter]
        congr 1
        funext entry
        by_cases found : entry.1 = other <;> simp [found, same]
      simp [root, same, kept, Ne.symm same]

/-- A name may have so many bytes. -/
def maximalName : Nat := 255

/-- A path may have so many bytes. -/
def maximalPath : Nat := 4095

/-- Follows names from a place. All but the last must lead to directories. -/
def follow (tree : FileTree) (place : Place) : List Text → Except FileFault Place
  | [] => .ok place
  | name :: rest =>
    match tree.node? place with
    | none => .error .missing
    | some (.file _) => .error .notDirectory
    | some .directory =>
      if maximalName < (Text.encode name).size then .error .nameTooLong
      else if name = Path.up then tree.follow place.dropLast rest
      else tree.follow (place ++ [name]) rest

def locate (tree : FileTree) (path : Path) : Except FileFault Place :=
  if path.hasNul then .error .nul
  else if maximalPath < (Text.encode path.display).size then .error .nameTooLong
  else tree.follow (if path.slashes = 0 then tree.home else []) path.names

/-- What a path leads to, if it leads to anything. Only a name that is too long is a fault. -/
def find? (tree : FileTree) (path : Path) : Except FileFault (Option Node) :=
  match tree.locate path with
  | .ok place => .ok (tree.node? place)
  | .error .nameTooLong => .error .nameTooLong
  | .error _ => .ok none

def isFile (tree : FileTree) (path : Path) : Except FileFault Bool := do
  match ← tree.find? path with
  | some (.file _) => return true
  | _ => return false

def isDirectory (tree : FileTree) (path : Path) : Except FileFault Bool := do
  match ← tree.find? path with
  | some .directory => return true
  | _ => return false

def read (tree : FileTree) (path : Path) : Except FileFault ByteArray := do
  match tree.node? (← tree.locate path) with
  | some (.file content) => return content
  | some .directory => .error .isDirectory
  | none => .error .missing

/-- The place of a file that may be written. -/
def writable (tree : FileTree) (path : Path) : Except FileFault Place := do
  let place ← tree.locate path
  match tree.node? place with
  | some .directory => .error .isDirectory
  | _ => .ok place

/-- Writes a file. The directory that it is in must be there. -/
def write (tree : FileTree) (path : Path) (content : ByteArray) : Except FileFault FileTree := do
  return tree.put (← tree.writable path) (.file content)

def remove (tree : FileTree) (path : Path) : Except FileFault FileTree := do
  let place ← tree.locate path
  match tree.node? place with
  | some (.file _) => return tree.erase place
  | some .directory => .error .isDirectory
  | none => .error .missing

/-- Makes one directory in a directory that is there. -/
def makeDirectory (tree : FileTree) (path : Path) : Except FileFault FileTree := do
  let place ← tree.locate path
  match tree.node? place with
  | some _ => .error .exists
  | none => return tree.put place .directory

/-- Makes a directory unless it is there already. -/
def ensureDirectory (tree : FileTree) (path : Path) : Except FileFault FileTree :=
  match tree.makeDirectory path with
  | .ok made => .ok made
  | .error .missing => .error .missing
  | .error .nul => .error .nul
  | .error fault => do if ← tree.isDirectory path then return tree else .error fault

/-- Makes a directory and those that it is in, as far as they are missing. The names come from the
last on. What is made stays when a later step fails. -/
def ensureDirectories (slashes : Nat) : List Text → FileTree → FileTree × Option FileFault
  | [], tree =>
    match tree.ensureDirectory ⟨slashes, []⟩ with
    | .ok tree => (tree, none)
    | .error fault => (tree, some fault)
  | name :: outer, tree =>
    let path : Path := ⟨slashes, (name :: outer).reverse⟩
    match tree.ensureDirectory path with
    | .ok made => (made, none)
    | .error .missing =>
      match ensureDirectories slashes outer tree with
      | (tree, some fault) => (tree, some fault)
      | (tree, none) =>
        match tree.ensureDirectory path with
        | .ok made => (made, none)
        | .error fault => (tree, some fault)
    | .error fault => (tree, some fault)

end FileTree

end Stencil
