import Mathlib.Data.List.Basic
import Stencil.Proofs.Template.Alike

/-!
The places that a path leads through. A path leads somewhere as long as these are directories, and
the names that it is spelled with may lead back or nowhere.
-/

set_option autoImplicit false

namespace Stencil

namespace Path

/-- The places that names lead through, from where they are followed to the last but one. -/
def routeFrom (place : Place) : List Text → List Place
  | [] => []
  | name :: rest =>
    place :: routeFrom (if name = up then place.dropLast else place ++ [name]) rest

def start (home : Place) (path : Path) : Place := if path.slashes = 0 then home else []

def route (home : Place) (path : Path) : List Place := routeFrom (path.start home) path.names

/-- The places that a path leads through, and the one that it leads to. -/
def way (home : Place) (path : Path) : List Place := path.route home ++ [path.resolve home]

/-- Whether a path may be used: it has no character and no length that paths must not have. -/
structure Usable (path : Path) : Prop where
  clean : path.hasNul = false
  short : (Text.encode path.display).size ≤ FileTree.maximalPath
  names : ∀ name ∈ path.names, (Text.encode name).size ≤ FileTree.maximalName

theorem routeFrom_append (place : Place) (names more : List Text) :
    routeFrom place (names ++ more) =
      routeFrom place names ++ routeFrom (collapse place names) more := by
  induction names generalizing place with
  | nil => rfl
  | cons name rest ih =>
    rw [List.cons_append, routeFrom, routeFrom, ih, collapse, List.cons_append]
    split <;> rfl

theorem collapse_append (place : Place) (names more : List Text) :
    collapse place (names ++ more) = collapse (collapse place names) more := by
  induction names generalizing place with
  | nil => rfl
  | cons name rest ih =>
    rw [List.cons_append, collapse, collapse, ih, ih]
    split <;> rfl

theorem resolve_eq (home : Place) (path : Path) :
    path.resolve home = collapse (path.start home) path.names := rfl

/-- What a path leads through before its last name. -/
theorem route_child (home : Place) (slashes : Nat) (names : List Text) (name : Text) :
    route home ⟨slashes, names ++ [name]⟩ = way home ⟨slashes, names⟩ :=
  routeFrom_append _ names [name]

end Path

namespace Text

theorem size_encode_append (one other : Text) :
    (encode (one ++ other)).size = (encode one).size + (encode other).size := by
  rw [encode, encode, encode, String.toByteArray_ofList, String.toByteArray_ofList,
    String.toByteArray_ofList, List.utf8Encode_append, ByteArray.size_append]

theorem join_append_singleton (separator : Text) (names : List Text) (name : Text) :
    ∃ more, join separator (names ++ [name]) = join separator names ++ more := by
  induction names with
  | nil => exact ⟨_, rfl⟩
  | cons first rest ih =>
    cases rest with
    | nil => exact ⟨separator ++ name, by simp [join, List.intercalate]⟩
    | cons second others =>
      obtain ⟨more, same⟩ := ih
      refine ⟨more, ?_⟩
      simp only [join, List.intercalate, List.cons_append, List.intersperse_cons_cons,
        List.flatten_cons, List.append_assoc] at same ⊢
      rw [same]

end Text

namespace Path

theorem Usable.outer {slashes : Nat} {names : List Text} {name : Text}
    (usable : Usable ⟨slashes, names ++ [name]⟩) : Usable ⟨slashes, names⟩ := by
  refine ⟨?_, ?_, fun one member => usable.names one (List.mem_append_left _ member)⟩
  · have clean := usable.clean
    rw [hasNul, List.any_append, Bool.or_eq_false_iff] at clean
    exact clean.1
  · obtain ⟨more, joined⟩ := Text.join_append_singleton ['/'] names name
    have short := usable.short
    have whole : display ⟨slashes, names ++ [name]⟩ =
        List.replicate slashes '/' ++ Text.join ['/'] names ++ more := by
      unfold display
      split
      next _ empty => simp at empty
      next => rw [joined, List.append_assoc]
    rw [whole, Text.size_encode_append] at short
    unfold display
    split
    next => decide
    next => exact Nat.le_trans (Nat.le_add_right _ _) short

end Path

namespace FileTree

variable {tree : FileTree}

theorem follow_eq_ok {place found : Place} {names : List Text} :
    tree.follow place names = .ok found ↔
      (∀ one ∈ Path.routeFrom place names, tree.node? one = some .directory) ∧
        (∀ name ∈ names, (Text.encode name).size ≤ maximalName) ∧
          found = Path.collapse place names := by
  induction names generalizing place with
  | nil => simp [follow, Path.routeFrom, Path.collapse, eq_comm]
  | cons name rest ih =>
    rw [follow, Path.routeFrom, Path.collapse, List.forall_mem_cons, List.forall_mem_cons]
    cases here : tree.node? place with
    | none => simp
    | some node =>
      cases node with
      | file content => simp
      | directory =>
        by_cases long : maximalName < (Text.encode name).size
        next => simp [long, Nat.not_le.mpr long]
        next =>
          simp only [long, if_false, true_and, Nat.not_lt.mp long]
          split <;> exact ih

theorem locate_eq_ok {path : Path} {found : Place} :
    tree.locate path = .ok found ↔
      path.Usable ∧ (∀ one ∈ path.route tree.home, tree.node? one = some .directory) ∧
        found = path.resolve tree.home := by
  rw [locate]
  cases clean : path.hasNul with
  | true =>
    simp only [if_true, reduceCtorEq, false_iff, not_and]
    intro usable
    rw [usable.clean] at clean
    cases clean
  | false =>
    by_cases long : maximalPath < (Text.encode path.display).size
    next =>
      simp only [Bool.false_eq_true, if_false, long, if_true, reduceCtorEq, false_iff, not_and]
      exact fun usable => absurd usable.short (Nat.not_le.mpr long)
    next =>
      simp only [Bool.false_eq_true, if_false, long]
      have followed := @follow_eq_ok tree (path.start tree.home) found path.names
      rw [← Path.start, followed, ← Path.route, ← Path.resolve_eq]
      constructor
      · rintro ⟨led, names, same⟩
        exact ⟨⟨clean, Nat.not_lt.mp long, names⟩, led, same⟩
      · rintro ⟨usable, led, same⟩
        exact ⟨led, usable.names, same⟩

/-- A path does not lead on where there is nothing. -/
theorem follow_missing {place : Place} {names : List Text}
    (short : ∀ name ∈ names, (Text.encode name).size ≤ maximalName)
    (unfiled : ∀ one ∈ Path.routeFrom place names, ∀ content,
      tree.node? one ≠ some (.file content))
    (stopped : ∃ one ∈ Path.routeFrom place names, tree.node? one ≠ some .directory) :
    tree.follow place names = .error .missing := by
  induction names generalizing place with
  | nil => simp [Path.routeFrom] at stopped
  | cons name rest ih =>
    rw [Path.routeFrom, List.forall_mem_cons] at unfiled
    rw [List.forall_mem_cons] at short
    rw [follow]
    cases here : tree.node? place with
    | none => rfl
    | some node =>
      cases node with
      | file content => exact absurd here (unfiled.1 content)
      | directory =>
        have later : ∃ one ∈ Path.routeFrom
            (if name = Path.up then place.dropLast else place ++ [name]) rest,
            tree.node? one ≠ some .directory := by
          obtain ⟨one, member, other⟩ := stopped
          rcases List.mem_cons.mp member with rfl | member
          · exact absurd here other
          · exact ⟨one, member, other⟩
        have onward := ih short.2 unfiled.2 later
        simp only [Nat.not_lt.mpr short.1, if_false]
        split at onward <;> simp_all

theorem locate_missing {path : Path} (usable : path.Usable)
    (unfiled : ∀ one ∈ path.route tree.home, ∀ content, tree.node? one ≠ some (.file content))
    (stopped : ∃ one ∈ path.route tree.home, tree.node? one ≠ some .directory) :
    tree.locate path = .error .missing := by
  rw [locate, usable.clean]
  simp only [Bool.false_eq_true, if_false, Nat.not_lt.mpr usable.short]
  exact follow_missing usable.names unfiled stopped

end FileTree

end Stencil

/-! ### Paths as they are spelled -/

namespace Stencil

/-- The place that a name leads to. -/
def Place.toward (place : Place) (name : Text) : Place :=
  if name = [] ∨ name = ['.'] then place
  else if name = Path.up then place.dropLast
  else place ++ [name]

/-- The place that is meant by a spelling, read at another one. -/
def Place.meant (home : Place) (spelling : Text) : Place :=
  (Text.splitAt '/' spelling).foldl Place.toward (if spelling.head? = some '/' then [] else home)

end Stencil
