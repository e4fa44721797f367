import Mathlib.Data.List.Induction
import Mathlib.Data.List.Nodup
import Stencil.Proofs.Files.Making

/-!
Trees in which everything is in a directory, and what changes of files make of two trees one of
which has grown from the other.
-/

set_option autoImplicit false

namespace Stencil.FileTree

/-- Whether everything is there once, in a directory that is there. -/
structure Sound (tree : FileTree) : Prop where
  home : tree.node? tree.home = some .directory
  single : (tree.nodes.map (·.1)).Nodup
  below : ∀ entry ∈ tree.nodes, entry.1 ≠ []
  outer : ∀ entry ∈ tree.nodes, tree.node? entry.1.dropLast = some .directory

instance (tree : FileTree) : Decidable tree.Sound :=
  decidable_of_iff (tree.node? tree.home = some .directory ∧ (tree.nodes.map (·.1)).Nodup ∧
      (∀ entry ∈ tree.nodes, entry.1 ≠ []) ∧
        ∀ entry ∈ tree.nodes, tree.node? entry.1.dropLast = some .directory)
    ⟨fun ⟨home, single, below, outer⟩ => ⟨home, single, below, outer⟩,
      fun ⟨home, single, below, outer⟩ => ⟨home, single, below, outer⟩⟩

variable {tree made : FileTree} {place other : Place} {node : Node}

theorem mem_of_node? (below : place ≠ []) (found : tree.node? place = some node) :
    (place, node) ∈ tree.nodes := by
  rw [node?, if_neg below, Option.map_eq_some_iff] at found
  obtain ⟨entry, first, rfl⟩ := found
  have same := List.find?_some first
  rw [beq_iff_eq] at same
  exact same ▸ List.mem_of_find?_eq_some first

theorem Sound.node?_of_mem (sound : tree.Sound) (member : (place, node) ∈ tree.nodes) :
    tree.node? place = some node := by
  rw [node?, if_neg (sound.below _ member)]
  cases first : tree.nodes.find? fun entry => entry.1 == place with
  | none =>
    have absent := List.find?_eq_none.mp first _ member
    exact absurd (beq_self_eq_true place) absent
  | some entry =>
    have same := List.find?_some first
    rw [beq_iff_eq] at same
    have inside := List.mem_of_find?_eq_some first
    have equal := List.inj_on_of_nodup_map sound.single inside member same
    rw [equal]
    rfl

/-- What something is in is a directory. -/
theorem Sound.directory_of_prefix (sound : tree.Sound) (there : tree.node? place = some node)
    (before : other <+: place) (apart : other ≠ place) : tree.node? other = some .directory := by
  induction place using List.reverseRecOn generalizing node with
  | nil => exact absurd (List.prefix_nil.mp before) apart
  | append_singleton outer name ih =>
    have around := sound.outer _ (mem_of_node? (by simp) there)
    rw [List.dropLast_concat] at around
    by_cases last : other = outer
    next => rw [last, around]
    next =>
      refine ih around ?_ last
      exact (List.prefix_concat_iff.mp before).resolve_left apart

theorem Sound.directory_dropLast (sound : tree.Sound) (there : tree.node? place = some node) :
    tree.node? place.dropLast = some .directory := by
  by_cases root : place = []
  next => rw [root]; rfl
  next => exact sound.outer _ (mem_of_node? root there)

/-- A place that a path leads to is a directory, or it is in one. -/
theorem Sound.directory_of_locate {path : Path} (sound : tree.Sound)
    (located : tree.locate path = .ok place) :
    tree.node? place = some .directory ∨
      place ≠ [] ∧ tree.node? place.dropLast = some .directory := by
  obtain ⟨-, led, rfl⟩ := locate_eq_ok.mp located
  obtain ⟨slashes, names⟩ := path
  rcases List.eq_nil_or_concat names with rfl | ⟨outer, name, rfl⟩
  · refine .inl ?_
    rw [Path.resolve_eq, Path.collapse, Path.start]
    split
    next => exact sound.home
    next => rfl
  · rw [List.concat_eq_append] at led ⊢
    rw [Path.route_child] at led
    have last := led _ (List.mem_append_right _ (List.mem_singleton_self _))
    rw [Path.resolve_eq] at last ⊢
    rw [Path.collapse_append, Path.collapse]
    split
    next => exact .inl (sound.directory_dropLast last)
    next =>
      rw [Path.collapse]
      refine .inr ⟨by simp, ?_⟩
      rw [List.dropLast_concat]
      exact last

theorem node?_erase (below : place ≠ []) :
    (tree.erase place).node? other = if other = place then none else tree.node? other := by
  unfold node? erase
  by_cases root : other = []
  next => simp [root, Ne.symm below]
  next =>
    rw [if_neg root, if_neg root, List.find?_filter]
    by_cases same : other = place
    next => simp [same, List.find?_eq_none]
    next =>
      rw [if_neg same]
      congr 2
      funext entry
      by_cases found : entry.1 = other <;> simp [found, same]

theorem Sound.put (sound : tree.Sound) (below : place ≠ [])
    (around : tree.node? place.dropLast = some .directory)
    (stays : tree.node? place = some .directory → node = .directory) :
    (tree.put place node).Sound := by
  have shorter : place.dropLast ≠ place := by
    intro same
    have := congrArg List.length same
    rw [List.length_dropLast] at this
    have := List.length_pos_iff.mpr below
    omega
  refine ⟨?_, ?_, fun entry member => ?_, fun entry member => ?_⟩
  · rw [put_home, node?_put _ _ _ _ below]
    split
    next same => rw [stays (same ▸ sound.home)]
    next => exact sound.home
  · have others : ((tree.nodes.filter fun entry => entry.1 != place).map (·.1)).Nodup :=
      sound.single.sublist (List.filter_sublist.map _)
    rw [FileTree.put, List.map_append, List.nodup_append]
    refine ⟨others, by simp, ?_⟩
    simp
  · rw [FileTree.put, List.mem_append] at member
    rcases member with inside | last
    · exact sound.below entry (List.mem_of_mem_filter inside)
    · rw [List.mem_singleton.mp last]
      exact below
  · have kept : tree.node? entry.1.dropLast = some .directory := by
      rw [FileTree.put, List.mem_append] at member
      rcases member with inside | last
      · exact sound.outer entry (List.mem_of_mem_filter inside)
      · rw [List.mem_singleton.mp last]
        exact around
    rw [node?_put _ _ _ _ below]
    split
    next same => rw [stays (same ▸ kept)]
    next => exact kept

theorem Sound.erase (sound : tree.Sound) (below : place ≠ [])
    (apart : tree.node? place ≠ some .directory) : (tree.erase place).Sound := by
  have kept (other : Place) (there : tree.node? other = some .directory) :
      (tree.erase place).node? other = some .directory := by
    rw [node?_erase below, if_neg, there]
    rintro rfl
    exact apart there
  refine ⟨kept _ sound.home, ?_, fun entry member => ?_, fun entry member => ?_⟩
  · exact sound.single.sublist (List.filter_sublist.map _)
  · exact sound.below entry (List.mem_of_mem_filter member)
  · exact kept _ (sound.outer entry (List.mem_of_mem_filter member))

theorem Sound.ensureDirectory {path : Path} (sound : tree.Sound)
    (ensured : tree.ensureDirectory path = .ok made) : made.Sound := by
  obtain ⟨place, located, ⟨-, rfl⟩ | ⟨free, rfl⟩⟩ := ensureDirectory_eq_ok.mp ensured
  · exact sound
  · obtain there | ⟨below, around⟩ := sound.directory_of_locate located
    · rw [free] at there
      cases there
    · exact sound.put below around fun _ => rfl

theorem Sound.ensureDirectories (sound : tree.Sound) (slashes : Nat) (names : List Text) :
    (ensureDirectories slashes names tree).1.Sound := by
  induction names generalizing tree with
  | nil =>
    rw [FileTree.ensureDirectories]
    split
    next done => exact sound.ensureDirectory done
    next => exact sound
  | cons name outer ih =>
    rw [FileTree.ensureDirectories]
    split
    next done => exact sound.ensureDirectory done
    next =>
      have before := ih sound
      split
      next step => rwa [step] at before
      next step =>
        rw [step] at before
        split
        next done => exact before.ensureDirectory done
        next => exact before
    next => exact sound

theorem Sound.write {path : Path} {content : ByteArray} (sound : tree.Sound)
    (written : tree.write path content = .ok made) : made.Sound := by
  obtain ⟨place, located, free, rfl⟩ := write_eq_ok.mp written
  obtain there | ⟨below, around⟩ := sound.directory_of_locate located
  · exact absurd there free
  · exact sound.put below around fun there => absurd there free

theorem remove_eq_ok {path : Path} {removed : FileTree} :
    tree.remove path = .ok removed ↔
      ∃ place content, tree.locate path = .ok place ∧
        tree.node? place = some (.file content) ∧ removed = tree.erase place := by
  rw [remove]
  cases tree.locate path with
  | error fault => simp
  | ok place =>
    simp only [Outcome.ok_bind]
    cases here : tree.node? place with
    | none => simp [here]
    | some node => cases node <;> simp [here, pure, Except.pure, eq_comm]

theorem ne_root_of_file {content : ByteArray} (file : tree.node? place = some (.file content)) :
    place ≠ [] := by
  rintro rfl
  cases file

theorem Sound.remove {path : Path} {removed : FileTree} (sound : tree.Sound)
    (done : tree.remove path = .ok removed) : removed.Sound := by
  obtain ⟨place, content, -, file, rfl⟩ := remove_eq_ok.mp done
  refine sound.erase (ne_root_of_file file) fun there => ?_
  rw [file] at there
  cases there

/-! ### Two trees that change alike -/

section Both

variable {outputs : Place → Prop} {later : FileTree} {content : ByteArray}

theorem Grows.both_made {places : List Place} {first second : FileTree} (grows : Grows outputs tree later)
    (one : Made places tree first) (two : Made places later second) :
    Grows outputs first second := by
  refine ⟨two.home.trans (grows.home.trans one.home.symm), fun place led => ?_,
    fun place content file => ?_, fun place content outside => ?_⟩
  · rw [one.node] at led
    rw [two.node]
    split at led
    next member => rw [if_pos member]
    next beside => rw [if_neg beside, grows.directory place led]
  · rw [one.node] at file
    split at file
    next => cases file
    next beside =>
      rw [two.node, if_neg beside]
      exact grows.file place content file
  · rw [one.node, two.node]
    split
    next => exact Iff.rfl
    next => exact grows.kept place content outside

theorem Grows.both_put (grows : Grows outputs tree later) (free : tree.node? place ≠ some .directory)
    (apart : later.node? place ≠ some .directory) :
    Grows outputs (tree.put place (.file content)) (later.put place (.file content)) := by
  have below : place ≠ [] := by
    rintro rfl
    exact free rfl
  refine ⟨grows.home, fun other led => ?_, fun other found file => ?_, fun other found outside => ?_⟩
  · rw [node?_put _ _ _ _ below] at led ⊢
    split at led
    next => cases led
    next beside => rw [if_neg beside, grows.directory other led]
  · rw [node?_put _ _ _ _ below] at file ⊢
    split at file
    next here =>
      rw [if_pos here]
      exact ⟨content, rfl⟩
    next beside =>
      rw [if_neg beside]
      exact grows.file other found file
  · rw [node?_put _ _ _ _ below, node?_put _ _ _ _ below]
    split
    next => exact Iff.rfl
    next => exact grows.kept other found outside

theorem Grows.both_erase (grows : Grows outputs tree later) (below : place ≠ []) :
    Grows outputs (tree.erase place) (later.erase place) := by
  refine ⟨grows.home, fun other led => ?_, fun other found file => ?_, fun other found outside => ?_⟩
  · rw [node?_erase below] at led ⊢
    split at led
    next => cases led
    next beside => rw [if_neg beside, grows.directory other led]
  · rw [node?_erase below] at file ⊢
    split at file
    next => cases file
    next beside =>
      rw [if_neg beside]
      exact grows.file other found file
  · rw [node?_erase below, node?_erase below]
    split
    next => exact Iff.rfl
    next => exact grows.kept other found outside

end Both

end Stencil.FileTree
