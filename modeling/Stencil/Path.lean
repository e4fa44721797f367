import Stencil.Text.Basic

/-!
Paths as they are written. Empty names and single dots are dropped; two dots stay, since what they
mean depends on where they are.
-/

set_option autoImplicit false

namespace Stencil

/-- The slashes that a path begins with, none, one or two, and its names. -/
structure Path where
  slashes : Nat
  names : List Text
deriving DecidableEq, Repr

namespace Path

def here : Path := ⟨0, []⟩

def up : Text := ['.', '.']

def isDropped (name : Text) : Bool := name.isEmpty || name == ['.']

/-- Exactly two slashes in front stay two; more than two are one. -/
def leadingSlashes (text : Text) : Nat :=
  let count := (text.takeWhile (· == '/')).length
  if count = 2 then 2 else min count 1

def ofText (text : Text) : Path :=
  ⟨leadingSlashes text, (Text.splitAt '/' text).filter fun name => !isDropped name⟩

def display (path : Path) : Text :=
  match path.slashes, path.names with
  | 0, [] => ['.']
  | slashes, names => List.replicate slashes '/' ++ Text.join ['/'] names

/-- The second path seen from the first. -/
def join (base path : Path) : Path :=
  if path.slashes = 0 then ⟨base.slashes, base.names ++ path.names⟩ else path

def child (path : Path) (name : Text) : Path := ⟨path.slashes, path.names ++ [name]⟩

def parent (path : Path) : Path := ⟨path.slashes, path.names.dropLast⟩

def hasNul (path : Path) : Bool := path.names.any fun name => name.contains '\x00'

/-- Goes along names from a place that is given by its names; two dots go back. -/
def collapse (start : List Text) : List Text → List Text
  | [] => start
  | name :: rest => if name = up then collapse start.dropLast rest else collapse (start ++ [name]) rest

/-- The names, from the root on, of the place that a path means when it is read at a place. -/
def resolve (home : List Text) (path : Path) : List Text :=
  collapse (if path.slashes = 0 then home else []) path.names

theorem join_of_relative {base path : Path} (relative : path.slashes = 0) :
    base.join path = ⟨base.slashes, base.names ++ path.names⟩ := by
  simp [join, relative]

theorem join_of_absolute {base path : Path} (absolute : path.slashes ≠ 0) :
    base.join path = path := by
  simp [join, absolute]

end Path

end Stencil
