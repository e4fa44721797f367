import Mathlib
import Stencil.Job
import Stencil.Proofs.Files.Making

/-!
Texts that are delivered to targets: where that succeeds, what it makes, and what it leaves alone.
-/

set_option autoImplicit false

namespace Stencil

namespace FileTree

/-- Whether a text can be delivered to a target. -/
structure Open (tree : FileTree) (target : Path) : Prop where
  usable : target.Usable
  named : target.names ≠ []
  unfiled : tree.Unfiled (target.route tree.home)
  free : tree.node? (target.resolve tree.home) ≠ some .directory
  apart : target.resolve tree.home ∉ target.route tree.home

/-- What has become of a tree once a target has its content. -/
structure Delivered (target : Path) (content : ByteArray) (tree later : FileTree) : Prop where
  home : later.home = tree.home
  node : ∀ place, later.node? place =
    if place = target.resolve tree.home then some (.file content)
    else if place ∈ target.route tree.home then some .directory
    else tree.node? place

variable {tree later : FileTree} {target : Path} {content : ByteArray}

theorem Delivered.grows {outputs : Place → Prop} (delivered : Delivered target content tree later)
    (isOpen : tree.Open target) (output : outputs (target.resolve tree.home)) :
    Grows outputs tree later := by
  refine ⟨delivered.home, fun place directory => ?_, fun place other file => ?_,
    fun place other outside => ?_⟩
  · rw [delivered.node, if_neg, directory]
    · exact ite_self _
    · rintro rfl
      exact isOpen.free directory
  · rw [delivered.node]
    split
    next => exact ⟨content, rfl⟩
    next =>
      rw [if_neg fun member => isOpen.unfiled place member other file]
      exact ⟨other, file⟩
  · rw [delivered.node, if_neg]
    · split
      next member => simp [isOpen.unfiled place member other]
      next => rfl
    · rintro rfl
      exact outside output

/-- Whether a tree has all that a target needs: the directories on the way to it, and it. -/
structure Houses (tree : FileTree) (target : Path) : Prop where
  usable : target.Usable
  named : target.names ≠ []
  led : ∀ place ∈ target.route tree.home, tree.node? place = some .directory
  file : ∃ content, tree.node? (target.resolve tree.home) = some (.file content)

theorem Delivered.houses (delivered : Delivered target content tree later)
    (isOpen : tree.Open target) : later.Houses target where
  usable := isOpen.usable
  named := isOpen.named
  led place member := by
    rw [delivered.home] at member
    rw [delivered.node, if_neg, if_pos member]
    rintro rfl
    exact isOpen.apart member
  file := ⟨content, by rw [delivered.home, delivered.node, if_pos rfl]⟩

theorem Grows.houses {outputs : Place → Prop} (grows : Grows outputs tree later)
    (houses : tree.Houses target) : later.Houses target where
  usable := houses.usable
  named := houses.named
  led place member := grows.directory place (houses.led place (grows.home ▸ member))
  file := by
    obtain ⟨content, file⟩ := houses.file
    rw [grows.home]
    exact grows.file _ content file

/-- Trees of which none has a file where the other has a directory. -/
def Fits (tree other : FileTree) : Prop :=
  ∀ place content,
    (tree.node? place = some (.file content) → other.node? place ≠ some .directory) ∧
      (other.node? place = some (.file content) → tree.node? place ≠ some .directory)

/-- What a tree has, a tree that fits can get. -/
theorem Fits.open {whole : FileTree} (fits : tree.Fits whole) (home : tree.home = whole.home)
    (houses : whole.Houses target) : tree.Open target := by
  obtain ⟨usable, named, led, content, file⟩ := houses
  rw [← home] at led file
  refine ⟨usable, named, fun place member other filed => ?_, (fits _ content).2 file, fun member => ?_⟩
  · exact (fits place other).1 filed (led place member)
  · rw [led _ member] at file
    cases file

theorem Fits.delivered {whole : FileTree} (fits : tree.Fits whole) (home : tree.home = whole.home)
    (houses : whole.Houses target) (delivered : Delivered target content tree later) :
    later.Fits whole := by
  obtain ⟨usable, named, led, written, file⟩ := houses
  rw [← home] at led file
  intro place other
  rw [delivered.node]
  split
  next here => simp [here, file]
  next =>
    split
    next member => simp [led place member]
    next => exact fits place other

theorem Grows.fits {outputs : Place → Prop} (grows : Grows outputs tree later) :
    tree.Fits later := by
  intro place content
  constructor
  · intro file directory
    obtain ⟨other, file⟩ := grows.file place content file
    rw [file] at directory
    cases directory
  · intro file directory
    rw [grows.directory place directory] at file
    cases file

/-- Whether a path that leads to a file in one tree leads to the same file in another, once some
places have become directories there. -/
structure Leads (made : Place → Prop) (tree : FileTree) (path : Path) (other : FileTree) : Prop where
  way : ∀ place ∈ path.route tree.home, tree.node? place = some .directory →
    other.node? place = some .directory ∨ made place
  file : ∀ content, tree.node? (path.resolve tree.home) = some (.file content) →
    other.node? (path.resolve tree.home) = some (.file content)

section Leads

variable {made : Place → Prop} {path : Path} {other : FileTree}

theorem Grows.leads {outputs : Place → Prop} (grows : Grows outputs tree later)
    (inside : ¬outputs (path.resolve tree.home)) : tree.Leads made path later where
  way place _ led := .inl (grows.directory place led)
  file content := (grows.kept _ content inside).mp

theorem Leads.read (leads : tree.Leads made path other) (nothing : ∀ place, ¬made place)
    (home : other.home = tree.home) (read : tree.read path = .ok content) :
    other.read path = .ok content := by
  obtain ⟨place, located, file⟩ := read_eq_ok.mp read
  obtain ⟨usable, led, rfl⟩ := locate_eq_ok.mp located
  refine read_eq_ok.mpr ⟨_, locate_eq_ok.mpr ⟨usable, fun one member => ?_, by rw [home]⟩,
    leads.file content file⟩
  rw [home] at member
  exact (leads.way one member (led one member)).resolve_right (nothing one)

theorem Leads.tells {text : Text} (leads : tree.Leads made path other)
    (nothing : ∀ place, ¬made place) (home : other.home = tree.home)
    (tells : tree.Tells path text) : other.Tells path text := by
  obtain ⟨content, written, read, told⟩ := tells
  exact ⟨content, written, leads.read nothing home read, told⟩

/-- Where the same is delivered on both sides, paths go on leading to the same, and what is on the
way to the target has become directories. -/
theorem Leads.delivered {one two : FileTree} {more : Place → Prop} (leads : tree.Leads more path other)
    (home : other.home = tree.home)
    (wider : ∀ place, more place → place ∈ target.route tree.home ∨ made place)
    (apart : target.resolve tree.home ≠ path.resolve tree.home)
    (arrives : Delivered target content tree one) (lands : Delivered target content other two) :
    one.Leads made path two := by
  refine ⟨fun place member => ?_, fun held => ?_⟩
  · rw [arrives.home] at member
    rw [arrives.node, lands.node, home]
    split
    next => simp
    next =>
      split
      next => simp
      next beside =>
        intro led
        exact (leads.way place member led).imp_right fun inside =>
          (wider place inside).resolve_left beside
  · rw [arrives.home, arrives.node, lands.node, home, if_neg apart.symm, if_neg apart.symm]
    split
    next => simp
    next => exact leads.file held

end Leads

/-- The way to a target is the way to the directory that it is in. -/
theorem route_eq_way (home : Place) (named : target.names ≠ []) :
    target.route home = target.parent.way home := by
  obtain ⟨slashes, names⟩ := target
  obtain ⟨outer, name, rfl⟩ := List.eq_nil_or_concat names |>.resolve_left named
  rw [List.concat_eq_append, Path.route_child, Path.parent, List.dropLast_concat]

end FileTree

namespace Work

variable {workspace done : Workspace} {path : Path}

theorem ensureDirectories_eq_ok :
    ensureDirectories path workspace = .ok () done ↔
      ∃ made, FileTree.ensureDirectories path.slashes path.names.reverse workspace.tree =
        (made, none) ∧ done = { workspace with tree := made } := by
  rw [ensureDirectories]
  simp only [Outcome.bind_apply, get, getThe, MonadStateOf.get, EStateM.get, modify, modifyGet,
    MonadStateOf.modifyGet, EStateM.modifyGet]
  generalize FileTree.ensureDirectories path.slashes path.names.reverse workspace.tree = result
  obtain ⟨made, fault⟩ := result
  cases fault with
  | none => simp [Outcome.pure_apply, eq_comm]
  | some fault => simp [throw, throwThe, MonadExceptOf.throw, EStateM.throw]

theorem change_eq_ok {operation : FileTree → Except FileFault FileTree} :
    change operation workspace = .ok () done ↔
      ∃ tree, operation workspace.tree = .ok tree ∧ done = { workspace with tree := tree } := by
  rw [change, inspect]
  simp only [Outcome.bind_apply, get, getThe, MonadStateOf.get, EStateM.get, modify, modifyGet,
    MonadStateOf.modifyGet, EStateM.modifyGet]
  cases operation workspace.tree with
  | error fault => simp [Except.mapError, lift, throw, throwThe, MonadExceptOf.throw, EStateM.throw]
  | ok tree => simp [Except.mapError, lift, Outcome.pure_apply, eq_comm]

theorem writeText_eq_ok {text : Text} :
    writeText path text workspace = .ok () done ↔
      ∃ place, workspace.tree.locate path = .ok place ∧
        workspace.tree.node? place ≠ some .directory ∧
          done = { workspace with tree := workspace.tree.put place (.file (Text.encode text)) } := by
  rw [writeText, change_eq_ok]
  constructor
  · rintro ⟨tree, written, rfl⟩
    obtain ⟨place, located, free, rfl⟩ := FileTree.write_eq_ok.mp written
    exact ⟨place, located, free, rfl⟩
  · rintro ⟨place, located, free, rfl⟩
    exact ⟨_, FileTree.write_eq_ok.mpr ⟨place, located, free, rfl⟩, rfl⟩

end Work

namespace Job

open FileTree

variable {workspace done : Workspace} {target : Path} {html : Script.Value}

theorem delivered_of_write (written : write target html workspace = .ok () done) :
    ∃ content, html = .text content ∧ workspace.tree.Open target ∧
      Delivered target (Text.encode content) workspace.tree done.tree ∧
        done = { workspace with tree := done.tree } := by
  obtain ⟨_, _, making, written⟩ := Outcome.ran_bind written
  obtain ⟨made, ensured, rfl⟩ := Work.ensureDirectories_eq_ok.mp making
  obtain ⟨_, _, emptied, written⟩ := Outcome.ran_bind written
  obtain ⟨place, located, free, rfl⟩ := Work.writeText_eq_ok.mp emptied
  obtain ⟨-, unfiled, making⟩ := made_of_ensureDirectories ensured
  rw [List.reverse_reverse] at unfiled making
  obtain ⟨usable, -, same⟩ := locate_eq_ok.mp located
  rw [making.home] at same
  have outside : place ∉ target.parent.way workspace.tree.home := fun member => by
    rw [making.node, if_pos member] at free
    exact free rfl
  have named : target.names ≠ [] := fun empty => by
    have here : target.parent = target := by
      cases target
      rw [Path.parent, empty, List.dropLast_nil]
      exact congrArg _ empty.symm
    rw [here, same] at outside
    exact outside (List.mem_append_right _ (List.mem_singleton_self _))
  rw [making.node, if_neg outside] at free
  cases html with
  | text content =>
    obtain ⟨again, relocated, -, rfl⟩ := Work.writeText_eq_ok.mp written
    obtain ⟨-, -, twice⟩ := locate_eq_ok.mp relocated
    rw [put_home, making.home, ← same] at twice
    cases twice
    have below : place ≠ [] := by
      rintro rfl
      exact free rfl
    refine ⟨content, rfl, ⟨usable, named, ?_, same ▸ free, ?_⟩, ⟨making.home, fun one => ?_⟩, rfl⟩
    · rwa [route_eq_way _ named]
    · rwa [route_eq_way _ named, ← same]
    · rw [node?_put _ _ _ _ below, node?_put _ _ _ _ below, making.node, route_eq_way _ named, same]
      split <;> rfl
  | _ => cases written

/-- A text is delivered where that is possible. -/
theorem write_ok (isOpen : workspace.tree.Open target) (content : Text) :
    ∃ done, write target (.text content) workspace = .ok () done := by
  obtain ⟨usable, named, unfiled, free, apart⟩ := isOpen
  rw [route_eq_way _ named] at unfiled apart
  have outer : target.parent.Usable := by
    obtain ⟨slashes, names⟩ := target
    obtain ⟨outer, name, rfl⟩ := List.eq_nil_or_concat names |>.resolve_left named
    rw [List.concat_eq_append] at usable
    rw [List.concat_eq_append, Path.parent, List.dropLast_concat]
    exact usable.outer
  obtain ⟨made, ensured⟩ : ∃ made, ensureDirectories target.parent.slashes
      target.parent.names.reverse workspace.tree = (made, none) :=
    ensureDirectories_ok (by rwa [List.reverse_reverse]) (by rwa [List.reverse_reverse])
  obtain ⟨-, -, making⟩ := made_of_ensureDirectories ensured
  rw [List.reverse_reverse] at making
  have led : ∀ one ∈ target.route made.home, made.node? one = some .directory := by
    intro one member
    rw [making.home, route_eq_way _ named] at member
    rw [making.node, if_pos member]
  have located := locate_eq_ok.mpr ⟨usable, led, rfl⟩
  have unmade : made.node? (target.resolve made.home) ≠ some .directory := by
    rwa [making.home, making.node, if_neg apart]
  have below : target.resolve made.home ≠ [] := fun root => by
    rw [root] at unmade
    exact unmade rfl
  have emptied : Work.writeText target [] { workspace with tree := made } = .ok () _ :=
    Work.writeText_eq_ok.mpr ⟨_, located, unmade, rfl⟩
  have relocated : (made.put (target.resolve made.home) (.file (Text.encode []))).locate target =
      .ok (target.resolve made.home) := by
    refine locate_eq_ok.mpr ⟨usable, fun one member => ?_, rfl⟩
    rw [put_home] at member
    rw [node?_put _ _ _ _ below, if_neg, led one member]
    rintro rfl
    exact unmade (led _ member)
  have written : Work.writeText target content
      { workspace with tree := made.put _ (.file (Text.encode [])) } = .ok () _ :=
    Work.writeText_eq_ok.mpr
      ⟨_, relocated, by rw [node?_put _ _ _ _ below, if_pos rfl]; simp, rfl⟩
  rw [write, Outcome.bind_ok (Work.ensureDirectories_eq_ok.mpr ⟨made, ensured, rfl⟩),
    Outcome.bind_ok emptied]
  exact ⟨_, written⟩

end Job

end Stencil
