import Stencil.Proofs.Files.Route

/-!
Directories that are made, files that are written, and what stays as it is.
-/

set_option autoImplicit false

namespace Stencil.FileTree

/-- A tree that has come of another one by files being written and directories being made. No file
is written elsewhere than where there may be an output. -/
structure Grows (outputs : Place → Prop) (tree later : FileTree) : Prop where
  home : later.home = tree.home
  directory : ∀ place, tree.node? place = some .directory → later.node? place = some .directory
  file : ∀ place content, tree.node? place = some (.file content) →
    ∃ other, later.node? place = some (.file other)
  kept : ∀ place content, ¬outputs place →
    (tree.node? place = some (.file content) ↔ later.node? place = some (.file content))

namespace Grows

variable {outputs wider : Place → Prop} {tree middle later : FileTree}

theorem refl (outputs : Place → Prop) (tree : FileTree) : Grows outputs tree tree where
  home := rfl
  directory _ found := found
  file _ content found := ⟨content, found⟩
  kept _ _ _ := Iff.rfl

theorem trans (first : Grows outputs tree middle) (second : Grows outputs middle later) :
    Grows outputs tree later where
  home := second.home.trans first.home
  directory place found := second.directory place (first.directory place found)
  file place content found := by
    obtain ⟨other, found⟩ := first.file place content found
    exact second.file place other found
  kept place content inside :=
    (first.kept place content inside).trans (second.kept place content inside)

theorem mono (grows : Grows outputs tree later) (more : ∀ place, outputs place → wider place) :
    Grows wider tree later where
  home := grows.home
  directory := grows.directory
  file := grows.file
  kept place content outside := grows.kept place content fun inside => outside (more place inside)

end Grows

/-- A tree in which some places have become directories. -/
structure Made (places : List Place) (tree made : FileTree) : Prop where
  home : made.home = tree.home
  node : ∀ place, made.node? place = if place ∈ places then some .directory else tree.node? place

def Unfiled (tree : FileTree) (places : List Place) : Prop :=
  ∀ place ∈ places, ∀ content, tree.node? place ≠ some (.file content)

variable {tree made : FileTree} {path : Path} {places : List Place}

theorem Made.grows (found : Made places tree made) (unfiled : tree.Unfiled places)
    (outputs : Place → Prop) : Grows outputs tree made where
  home := found.home
  directory place directory := by
    rw [found.node]
    split
    next => rfl
    next => exact directory
  file place content file := by
    refine ⟨content, ?_⟩
    rw [found.node, if_neg fun member => unfiled place member content file, file]
  kept place content _ := by
    rw [found.node]
    split
    next member => simp [unfiled place member content]
    next => rfl

theorem put_home (tree : FileTree) (place : Place) (node : Node) :
    (tree.put place node).home = tree.home := rfl

theorem made_put {place : Place} (free : tree.node? place = none) :
    Made [place] tree (tree.put place .directory) where
  home := rfl
  node other := by
    have below : place ≠ [] := by
      rintro rfl
      cases free
    rw [node?_put _ _ _ _ below]
    simp

theorem made_here {place : Place} (there : tree.node? place = some .directory) :
    Made [place] tree tree where
  home := rfl
  node other := by
    split
    next member => rw [List.mem_singleton.mp member, there]
    next => rfl

theorem Made.along {inner : List Place} {first second : FileTree} (one : Made places tree first)
    (other : Made inner first second) : Made (places ++ inner) tree second where
  home := other.home.trans one.home
  node place := by
    rw [other.node, one.node]
    by_cases inside : place ∈ inner <;> by_cases outside : place ∈ places <;> simp [inside, outside]

/-! ### One directory -/

theorem ensureDirectory_lost {fault : FileFault} (lost : tree.locate path = .error fault) :
    tree.ensureDirectory path = .error fault := by
  cases fault <;> simp only [ensureDirectory, makeDirectory, isDirectory, find?, lost] <;> rfl

theorem ensureDirectory_found {place : Place} (found : tree.locate path = .ok place) :
    tree.ensureDirectory path =
      match tree.node? place with
      | none => .ok (tree.put place .directory)
      | some .directory => .ok tree
      | some (.file _) => .error .exists := by
  simp only [ensureDirectory, makeDirectory, isDirectory, find?, found, Outcome.ok_bind]
  cases tree.node? place with
  | none => rfl
  | some node => cases node <;> rfl

/-- One directory is made where there is nothing. -/
theorem ensureDirectory_eq_ok :
    tree.ensureDirectory path = .ok made ↔
      ∃ place, tree.locate path = .ok place ∧
        (tree.node? place = some .directory ∧ made = tree ∨
          tree.node? place = none ∧ made = tree.put place .directory) := by
  cases located : tree.locate path with
  | error fault => simp [ensureDirectory_lost located]
  | ok place =>
    rw [ensureDirectory_found located]
    cases here : tree.node? place with
    | none => simp [here, eq_comm]
    | some node => cases node <;> simp [here, eq_comm]

theorem made_of_ensureDirectory (ensured : tree.ensureDirectory path = .ok made) :
    ∃ place, tree.locate path = .ok place ∧ Made [place] tree made ∧
      tree.Unfiled [place] := by
  obtain ⟨place, located, ⟨there, rfl⟩ | ⟨free, rfl⟩⟩ := ensureDirectory_eq_ok.mp ensured
  · exact ⟨place, located, made_here there, by simp [Unfiled, there]⟩
  · exact ⟨place, located, made_put free, by simp [Unfiled, free]⟩

/-! ### Directories in each other -/

/-- What a path has become that could be made. -/
theorem made_of_ensureDirectories {slashes : Nat} {names : List Text}
    (ensured : ensureDirectories slashes names tree = (made, none)) :
    Path.Usable ⟨slashes, names.reverse⟩ ∧
      tree.Unfiled (Path.way tree.home ⟨slashes, names.reverse⟩) ∧
        Made (Path.way tree.home ⟨slashes, names.reverse⟩) tree made := by
  induction names generalizing made with
  | nil =>
    rw [ensureDirectories] at ensured
    split at ensured
    next done =>
      obtain ⟨place, located, making, free⟩ := made_of_ensureDirectory done
      obtain ⟨usable, -, rfl⟩ := locate_eq_ok.mp located
      cases ensured
      exact ⟨usable, free, making⟩
    next => cases ensured
  | cons name outer ih =>
    rw [ensureDirectories] at ensured
    rw [List.reverse_cons] at ensured ⊢
    rw [Path.way, Path.route_child]
    split at ensured
    next done =>
      obtain ⟨place, located, making, free⟩ := made_of_ensureDirectory done
      obtain ⟨usable, led, rfl⟩ := locate_eq_ok.mp located
      rw [Path.route_child] at led
      cases ensured
      refine ⟨usable, ?_, ?_⟩
      · intro one member content file
        rcases List.mem_append.mp member with before | last
        · rw [led one before] at file
          cases file
        · exact free one last content file
      · refine Made.along ⟨rfl, fun one => ?_⟩ making
        split
        next member => exact led one member
        next => rfl
    next =>
      split at ensured
      next => cases ensured
      next first before =>
        obtain ⟨_, unfiled, making⟩ := ih before
        split at ensured
        next done =>
          obtain ⟨place, located, last, free⟩ := made_of_ensureDirectory done
          obtain ⟨usable, -, rfl⟩ := locate_eq_ok.mp located
          rw [making.home] at last free
          cases ensured
          refine ⟨usable, ?_, making.along last⟩
          intro one member content file
          rcases List.mem_append.mp member with inside | rest
          · exact unfiled one inside content file
          · refine free one rest content ?_
            rw [making.node, if_neg fun inside => unfiled one inside content file, file]
        next => cases ensured
    next => cases ensured

/-- A path can be made if there is no file on its way. -/
theorem ensureDirectories_ok {slashes : Nat} {names : List Text}
    (usable : Path.Usable ⟨slashes, names.reverse⟩)
    (unfiled : tree.Unfiled (Path.way tree.home ⟨slashes, names.reverse⟩)) :
    ∃ made, ensureDirectories slashes names tree = (made, none) := by
  have ended (tree : FileTree) (path : Path) (usable : path.Usable)
      (led : ∀ one ∈ path.route tree.home, tree.node? one = some .directory)
      (free : ∀ content, tree.node? (path.resolve tree.home) ≠ some (.file content)) :
      ∃ made, tree.ensureDirectory path = .ok made := by
    rw [ensureDirectory_found (locate_eq_ok.mpr ⟨usable, led, rfl⟩)]
    split
    next => exact ⟨_, rfl⟩
    next => exact ⟨_, rfl⟩
    next content here => exact absurd here (free content)
  induction names with
  | nil =>
    obtain ⟨made, done⟩ := ended tree _ usable (by simp [Path.route, Path.routeFrom])
      (unfiled _ (by simp [Path.way]))
    rw [List.reverse_nil] at done
    exact ⟨made, by rw [ensureDirectories, done]⟩
  | cons name outer ih =>
    rw [List.reverse_cons] at usable unfiled
    rw [Path.way, Path.route_child] at unfiled
    have last := unfiled _ (List.mem_append_right _ (List.mem_singleton_self _))
    rw [ensureDirectories, List.reverse_cons]
    by_cases led : ∀ one ∈ Path.way tree.home ⟨slashes, outer.reverse⟩,
        tree.node? one = some .directory
    next =>
      obtain ⟨made, done⟩ := ended tree _ usable (by rwa [Path.route_child]) last
      exact ⟨made, by rw [done]⟩
    next =>
      have inner : tree.Unfiled (Path.way tree.home ⟨slashes, outer.reverse⟩) :=
        fun one member => unfiled one (List.mem_append_left _ member)
      obtain ⟨first, done⟩ := ih usable.outer inner
      obtain ⟨-, -, making⟩ := made_of_ensureDirectories done
      have stopped : tree.locate ⟨slashes, outer.reverse ++ [name]⟩ = .error .missing := by
        refine locate_missing usable ?_ ?_
        · rwa [Path.route_child]
        · rw [Path.route_child]
          simpa using led
      obtain ⟨made, whole⟩ := ended first _ usable
        (by
          rw [making.home, Path.route_child]
          intro one member
          rw [making.node, if_pos member])
        (by
          intro content
          rw [making.home, making.node]
          split
          next => simp
          next => exact last content)
      exact ⟨made, by simp only [ensureDirectory_lost stopped, done, whole]⟩

/-- However far it gets, nothing is lost. -/
theorem ensureDirectories_grows (outputs : Place → Prop) (slashes : Nat) (names : List Text)
    (tree : FileTree) : Grows outputs tree (ensureDirectories slashes names tree).1 := by
  have single {tree made : FileTree} {path : Path} (done : tree.ensureDirectory path = .ok made) :
      Grows outputs tree made := by
    obtain ⟨_, _, making, free⟩ := made_of_ensureDirectory done
    exact making.grows free outputs
  induction names generalizing tree with
  | nil =>
    rw [ensureDirectories]
    split
    next done => exact single done
    next => exact .refl ..
  | cons name outer ih =>
    rw [ensureDirectories]
    split
    next done => exact single done
    next =>
      have before := ih tree
      split
      next step => rwa [step] at before
      next step =>
        rw [step] at before
        split
        next done => exact before.trans (single done)
        next => exact before
    next => exact .refl ..

/-! ### Files -/

theorem write_eq_ok {content : ByteArray} {written : FileTree} :
    tree.write path content = .ok written ↔
      ∃ place, tree.locate path = .ok place ∧ tree.node? place ≠ some .directory ∧
        written = tree.put place (.file content) := by
  rw [write, writable]
  cases tree.locate path with
  | error fault => simp
  | ok place =>
    simp only [Outcome.ok_bind]
    cases here : tree.node? place with
    | none => simp [here, pure, Except.pure, eq_comm]
    | some node => cases node <;> simp [here, pure, Except.pure, eq_comm]

/-! ### Texts -/

theorem read_eq_ok {content : ByteArray} :
    tree.read path = .ok content ↔
      ∃ place, tree.locate path = .ok place ∧ tree.node? place = some (.file content) := by
  rw [read]
  cases tree.locate path with
  | error fault => simp
  | ok place =>
    simp only [Outcome.ok_bind]
    cases here : tree.node? place with
    | none => simp [here]
    | some node => cases node <;> simp [here, pure, Except.pure]

/-- What the file that a path leads to says, once it is read. -/
def Tells (tree : FileTree) (path : Path) (text : Text) : Prop :=
  ∃ content written, tree.read path = .ok content ∧ Text.decode? content = some written ∧
    Text.unifyEndings written = text

theorem Tells.unique {one other : Text} (first : tree.Tells path one)
    (second : tree.Tells path other) : one = other := by
  obtain ⟨content, written, read, decoded, rfl⟩ := first
  obtain ⟨found, text, again, also, rfl⟩ := second
  cases read.symm.trans again
  cases decoded.symm.trans also
  rfl

theorem Grows.locate {outputs : Place → Prop} {later : FileTree} {place : Place}
    (grows : Grows outputs tree later) (located : tree.locate path = .ok place) :
    later.locate path = .ok place := by
  obtain ⟨usable, led, rfl⟩ := locate_eq_ok.mp located
  refine locate_eq_ok.mpr ⟨usable, fun one member => ?_, by rw [grows.home]⟩
  rw [grows.home] at member
  exact grows.directory one (led one member)

/-- What is no output still tells what it told. -/
theorem Grows.tells {outputs : Place → Prop} {later : FileTree} {text : Text}
    (grows : Grows outputs tree later) (inside : ¬outputs (path.resolve tree.home))
    (tells : tree.Tells path text) : later.Tells path text := by
  obtain ⟨content, written, read, decoded, unified⟩ := tells
  obtain ⟨place, located, file⟩ := read_eq_ok.mp read
  refine ⟨content, written, read_eq_ok.mpr ⟨place, grows.locate located, ?_⟩, decoded, unified⟩
  obtain ⟨-, -, rfl⟩ := locate_eq_ok.mp located
  exact (grows.kept _ content inside).mp file

theorem grows_put {outputs : Place → Prop} {place : Place} {content : ByteArray}
    (output : outputs place) (free : tree.node? place ≠ some .directory) :
    Grows outputs tree (tree.put place (.file content)) := by
  have below : place ≠ [] := by
    rintro rfl
    exact free rfl
  refine ⟨rfl, fun one directory => ?_, fun one other file => ?_, fun one other outside => ?_⟩
  · rw [node?_put _ _ _ _ below, if_neg, directory]
    rintro rfl
    exact free directory
  · rw [node?_put _ _ _ _ below]
    split
    next => exact ⟨content, rfl⟩
    next => exact ⟨other, file⟩
  · rw [node?_put _ _ _ _ below, if_neg]
    rintro rfl
    exact outside output

end Stencil.FileTree
