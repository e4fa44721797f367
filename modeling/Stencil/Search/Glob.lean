import Stencil.FileTree
import Stencil.Text.Basic

/-!
Names with wildcards: a star stands for any characters, a question mark for one, and brackets for
one of a set, or with an exclamation mark for one that is not in it.
-/

set_option autoImplicit false

namespace Stencil

inductive Wildcard where
  | exactly (c : Char)
  | anyOne
  | anyMany
  /-- One character that is in one of the ranges, or in none of them. -/
  | among (negated : Bool) (ranges : List (Char × Char))
deriving DecidableEq, Repr

namespace Wildcard

/-- Whether a name has any wildcard. -/
def isWild (name : Text) : Bool := name.any fun c => c == '*' || c == '?' || c == '['

/-- The ranges of a set. A hyphen between two characters makes a range of them. -/
def ranges : Text → List (Char × Char)
  | low :: '-' :: high :: rest => (low, high) :: ranges rest
  | c :: rest => (c, c) :: ranges rest
  | [] => []

/-- The content of brackets and what follows them. A closing bracket may come first. -/
def bracketed? (text : Text) : Option (Text × Text) :=
  match text with
  | [] => none
  | c :: rest =>
    let content := rest.takeWhile (· != ']')
    if content.length < rest.length then
      some (c :: content, rest.drop (content.length + 1))
    else none

/-- The set of the given ranges. An exclamation mark that comes first once ranges without characters
are left out makes it the set of all other characters. -/
def amongRanges (ranges : List (Char × Char)) : Wildcard :=
  match ranges.dropWhile fun range => decide (range.2 < range.1) with
  | ('!', high) :: rest =>
    among true (if high = '!' then rest else ('-', '-') :: (high, high) :: rest)
  | found => among false found

/-- The set that brackets stand for, from behind the first bracket, and what follows it. -/
def set? : Text → Option (Wildcard × Text)
  | '!' :: rest => (bracketed? rest).map fun found => (among true (ranges found.1), found.2)
  | text => (bracketed? text).map fun found => (amongRanges (ranges found.1), found.2)

theorem length_bracketed {text content rest : Text} (found : bracketed? text = some (content, rest)) :
    rest.length < text.length := by
  cases text with
  | nil => simp [bracketed?] at found
  | cons c more =>
    simp only [bracketed?] at found
    split at found
    next =>
      simp only [Option.some.injEq, Prod.mk.injEq] at found
      rw [← found.2, List.length_drop, List.length_cons]
      omega
    next => simp at found

theorem length_set {text rest : Text} {wildcard : Wildcard}
    (found : set? text = some (wildcard, rest)) : rest.length < text.length := by
  unfold set? at found
  split at found
  next more =>
    obtain ⟨⟨content, left⟩, inner, same⟩ := Option.map_eq_some_iff.1 found
    have shorter := length_bracketed inner
    simp only [Prod.mk.injEq] at same
    rw [← same.2, List.length_cons]
    omega
  next =>
    obtain ⟨⟨content, left⟩, inner, same⟩ := Option.map_eq_some_iff.1 found
    simp only [Prod.mk.injEq] at same
    rw [← same.2]
    exact length_bracketed inner

/-- Reads a name. A bracket that is not closed stands for itself. -/
def ofName (name : Text) : List Wildcard :=
  match name with
  | [] => []
  | '*' :: rest => anyMany :: ofName rest
  | '?' :: rest => anyOne :: ofName rest
  | '[' :: rest =>
    match found : set? rest with
    | some (wildcard, after) => wildcard :: ofName after
    | none => exactly '[' :: ofName rest
  | c :: rest => exactly c :: ofName rest
termination_by name.length
decreasing_by
  all_goals simp only [List.length_cons]
  all_goals first
    | omega
    | exact Nat.lt_succ_of_lt (length_set found)

/-- Whether a wildcard that stands for one character stands for this one. -/
def accepts (wildcard : Wildcard) (c : Char) : Bool :=
  match wildcard with
  | exactly own => own == c
  | anyOne => true
  | anyMany => true
  | among negated ranges =>
    (ranges.any fun range => decide (range.1 ≤ c) && decide (c ≤ range.2)) != negated

/-- All endings of a text, from the text itself to the empty one. -/
def endings : Text → List Text
  | [] => [[]]
  | c :: rest => (c :: rest) :: endings rest

def matchesAll : List Wildcard → Text → Bool
  | [], name => name.isEmpty
  | anyMany :: rest, name => (endings name).any (matchesAll rest)
  | _ :: _, [] => false
  | wildcard :: rest, c :: name => wildcard.accepts c && matchesAll rest name

/-- Whether a name is one that a name with wildcards stands for. -/
def fits (pattern name : Text) : Bool := matchesAll (ofName pattern) name

end Wildcard

end Stencil

/-!
Looking for files by a path with wildcards. Two stars stand for a directory and all those below
it.
-/

namespace Stencil

/-- One step of a search. -/
inductive GlobStep where
  | named (name : Text)
  | wild (pattern : Text)
  | below
deriving DecidableEq, Repr

structure Glob where
  steps : List GlobStep
  /-- Whether only directories are looked for. -/
  closed : Bool
deriving DecidableEq, Repr

/-- Why a text is no path to look for. -/
inductive GlobFault where
  | empty
  | absolute
  | withoutNames
  | onlyHere
  | starsInName
deriving DecidableEq, Repr

namespace GlobStep

def allBelow : Text := ['*', '*']

def hasStars : Text → Bool
  | [] => false
  | c :: rest => allBelow.isPrefixOf (c :: rest) || hasStars rest

def ofName (name : Text) : Except GlobFault GlobStep :=
  if name = allBelow then .ok below
  else if hasStars name then .error .starsInName
  else if Wildcard.isWild name then .ok (wild name)
  else .ok (named name)

end GlobStep

namespace Glob

def ofText (text : Text) : Except GlobFault Glob := do
  if text.isEmpty then .error .empty
  let path := Path.ofText text
  if path.slashes ≠ 0 then .error .absolute
  let closed := text.getLast? == some '/'
  if path.names.isEmpty then .error (if closed then .onlyHere else .withoutNames)
  return ⟨← path.names.mapM GlobStep.ofName, closed⟩

/-- The directories below a place, up to so many steps down. -/
def directoriesBelow (tree : FileTree) : Nat → Place → Path → List (Place × Path)
  | 0, _, _ => []
  | depth + 1, place, path =>
    (place, path) :: (tree.entries place).flatMap fun entry =>
      match entry.2 with
      | .directory => directoriesBelow tree depth (place ++ [entry.1]) (path.child entry.1)
      | .file _ => []

/-- All paths that steps lead to, from a directory. Before the last step there are only
directories. -/
def walk (tree : FileTree) (closed : Bool) :
    List GlobStep → Place → Path → Except FileFault (List Path)
  | [], _, path => .ok [path]
  | .named name :: rest, _, path => do
    let next := path.child name
    match ← tree.find? next with
    | none => return []
    -- A file is found by the last step only, and not where a directory is asked for.
    | some (.file _) => if rest.isEmpty && !closed then return [next] else return []
    | some .directory =>
      match tree.locate next with
      | .ok place => walk tree closed rest place next
      | .error _ => return []
  | .wild pattern :: rest, place, path => do
    let found ← (tree.entries place).mapM fun entry =>
      if (rest.isEmpty && !closed || entry.2 == .directory) &&
          Wildcard.fits pattern entry.1 then
        walk tree closed rest (place ++ [entry.1]) (path.child entry.1)
      else .ok []
    return found.flatten
  | .below :: rest, place, path => do
    let found ← (directoriesBelow tree (tree.nodes.length + 1) place path).mapM fun start =>
      walk tree closed rest start.1 start.2
    -- Several directories may lead to the same path.
    return found.flatten.eraseDups

/-- All paths below a directory that the search finds. -/
def paths (glob : Glob) (tree : FileTree) (base : Path) : Except FileFault (List Path) := do
  if ← tree.isDirectory base then
    match tree.locate base with
    | .ok place => walk tree glob.closed glob.steps place base
    | .error _ => return []
  else return []

end Glob

end Stencil
