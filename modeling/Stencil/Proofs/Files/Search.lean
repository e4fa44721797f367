import Mathlib.Data.List.Perm.Subperm
import Stencil.Config
import Stencil.Proofs.Files.Sound

/-!
Searches that can be made in a tree can be made in one that it has grown from. So a configuration
that is read among some files is read among fewer of them too, but for the files that it watches.
-/

set_option autoImplicit false

namespace Stencil

theorem Outcome.mapM_ok_iff {ε α β : Type} {items : List α} {next : α → Except ε β} :
    (∃ results, items.mapM next = .ok results) ↔ ∀ item ∈ items, ∃ result, next item = .ok result := by
  induction items with
  | nil => exact ⟨fun _ => by simp, fun _ => ⟨[], rfl⟩⟩
  | cons item rest ih =>
    rw [List.mapM_cons, List.forall_mem_cons, ← ih]
    constructor
    · rintro ⟨results, found⟩
      obtain ⟨first, here, found⟩ := bind_eq_ok.mp found
      obtain ⟨others, later, -⟩ := bind_eq_ok.mp found
      exact ⟨⟨first, here⟩, others, later⟩
    · rintro ⟨⟨first, here⟩, others, later⟩
      exact ⟨first :: others, by rw [here, later]; rfl⟩

namespace FileTree

variable {outputs : Place → Prop} {tree later : FileTree} {place : Place} {path : Path}

theorem mem_entries {name : Text} {node : Node} :
    (name, node) ∈ tree.entries place ↔ (place ++ [name], node) ∈ tree.nodes := by
  rw [entries, List.mem_filterMap]
  constructor
  · rintro ⟨⟨whole, content⟩, member, found⟩
    dsimp only at found
    split at found
    next last ended =>
      split at found
      next same =>
        cases found
        rwa [← same]
      next => cases found
    next => cases found
  · intro member
    exact ⟨_, member, by simp⟩

section Grows

variable (grows : Grows outputs tree later)

include grows

theorem follow_nameTooLong {names : List Text} (long : tree.follow place names = .error .nameTooLong) :
    later.follow place names = .error .nameTooLong := by
  induction names generalizing place with
  | nil => cases long
  | cons name rest ih =>
    rw [follow] at long ⊢
    cases here : tree.node? place with
    | none =>
      rw [here] at long
      cases long
    | some node =>
      rw [here] at long
      cases node with
      | file content => cases long
      | directory =>
        rw [grows.directory place here]
        dsimp only at long ⊢
        split at long
        next size => rw [if_pos size]
        next size =>
          rw [if_neg size]
          split at long
          next back => rw [if_pos back, ih long]
          next back => rw [if_neg back, ih long]

theorem locate_nameTooLong (long : tree.locate path = .error .nameTooLong) :
    later.locate path = .error .nameTooLong := by
  rw [locate] at long ⊢
  rw [grows.home]
  split at long
  next => cases long
  next clean =>
    rw [if_neg clean]
    split at long
    next size => rw [if_pos size]
    next size =>
      rw [if_neg size]
      exact follow_nameTooLong grows long

/-- What is found, or not, where there is more. -/
theorem find?_less {there : Option Node} (found : later.find? path = .ok there) :
    ∃ here, tree.find? path = .ok here ∧
      (here = some .directory → there = some .directory ∧ ∃ place, tree.locate path = .ok place ∧
        later.locate path = .ok place) := by
  rw [find?] at found ⊢
  cases located : tree.locate path with
  | ok place =>
    rw [grows.locate located] at found
    cases found
    exact ⟨_, rfl, fun led => ⟨grows.directory place led, place, rfl, grows.locate located⟩⟩
  | error fault =>
    cases fault with
    | nameTooLong =>
      rw [locate_nameTooLong grows located] at found
      cases found
    | _ => exact ⟨none, rfl, fun absent => by cases absent⟩

theorem mem_entries_more (sound : tree.Sound) {name : Text} {node : Node}
    (member : (name, node) ∈ tree.entries place) :
    ∃ other, (name, other) ∈ later.entries place ∧ (other = .directory ↔ node = .directory) := by
  have there := sound.node?_of_mem (mem_entries.mp member)
  have below : place ++ [name] ≠ [] := by simp
  cases node with
  | directory =>
    have led := grows.directory _ there
    exact ⟨.directory, mem_entries.mpr (mem_of_node? below led), Iff.rfl⟩
  | file content =>
    obtain ⟨other, file⟩ := grows.file _ content there
    exact ⟨.file other, mem_entries.mpr (mem_of_node? below file), by simp⟩

theorem length_nodes_le (sound : tree.Sound) : tree.nodes.length ≤ later.nodes.length := by
  have inside : tree.nodes.map (·.1) ⊆ later.nodes.map (·.1) := by
    intro place member
    obtain ⟨⟨_, node⟩, found, rfl⟩ := List.mem_map.mp member
    have there := sound.node?_of_mem found
    have below := sound.below _ found
    cases node with
    | directory =>
      exact List.mem_map.mpr ⟨_, mem_of_node? below (grows.directory _ there), rfl⟩
    | file content =>
      obtain ⟨other, file⟩ := grows.file _ content there
      exact List.mem_map.mpr ⟨_, mem_of_node? below file, rfl⟩
  simpa using (sound.single.subperm inside).length_le

theorem mem_directoriesBelow {depth more : Nat} (within : depth ≤ more) (sound : tree.Sound)
    {start : Place × Path} (member : start ∈ Glob.directoriesBelow tree depth place path) :
    start ∈ Glob.directoriesBelow later more place path := by
  induction depth generalizing more place path with
  | zero => cases member
  | succ depth ih =>
    obtain ⟨more, rfl⟩ : ∃ less, more = less + 1 := ⟨more - 1, by omega⟩
    rw [Glob.directoriesBelow, List.mem_cons, List.mem_flatMap] at member ⊢
    refine member.imp_right ?_
    rintro ⟨⟨name, node⟩, inside, beneath⟩
    obtain ⟨other, there, same⟩ := mem_entries_more grows sound inside
    cases node with
    | file content => cases beneath
    | directory =>
      obtain rfl := same.mpr rfl
      exact ⟨_, there, ih (Nat.le_of_succ_le_succ within) beneath⟩

theorem walk_less (sound : tree.Sound) {closed : Bool} {steps : List GlobStep} {found : List Path}
    (walked : Glob.walk later closed steps place path = .ok found) :
    ∃ less, Glob.walk tree closed steps place path = .ok less := by
  induction steps generalizing place path found with
  | nil => exact ⟨_, rfl⟩
  | cons step rest ih =>
    cases step with
    | named name =>
      rw [Glob.walk] at walked ⊢
      obtain ⟨there, asked, walked⟩ := Outcome.bind_eq_ok.mp walked
      obtain ⟨here, less, led⟩ := find?_less grows asked
      rw [less, Outcome.ok_bind]
      cases here with
      | none => exact ⟨_, rfl⟩
      | some node =>
        cases node with
        | file content =>
          dsimp only
          split <;> exact ⟨_, rfl⟩
        | directory =>
          obtain ⟨rfl, place, located, also⟩ := led rfl
          simp only [also] at walked
          simp only [located]
          exact ih walked
    | wild pattern =>
      rw [Glob.walk] at walked ⊢
      obtain ⟨results, each, -⟩ := Outcome.bind_eq_ok.mp walked
      have each := Outcome.mapM_ok_iff.mp ⟨_, each⟩
      obtain ⟨less, done⟩ : ∃ less, (tree.entries place).mapM (fun entry =>
          if (rest.isEmpty && !closed || entry.2 == .directory) &&
              Wildcard.fits pattern entry.1 then
            Glob.walk tree closed rest (place ++ [entry.1]) (path.child entry.1)
          else .ok []) = .ok less := by
        refine Outcome.mapM_ok_iff.mpr fun entry member => ?_
        obtain ⟨name, node⟩ := entry
        obtain ⟨other, there, same⟩ := mem_entries_more grows sound member
        have alike : (other == Node.directory) = (node == Node.directory) := by
          rw [Bool.eq_iff_iff, beq_iff_eq, beq_iff_eq, same]
        obtain ⟨result, walked⟩ := each _ there
        rw [alike] at walked
        split
        next taken =>
          rw [if_pos taken] at walked
          exact ih walked
        next => exact ⟨[], rfl⟩
      exact ⟨_, by rw [done]; rfl⟩
    | below =>
      rw [Glob.walk] at walked ⊢
      obtain ⟨results, each, -⟩ := Outcome.bind_eq_ok.mp walked
      have each := Outcome.mapM_ok_iff.mp ⟨_, each⟩
      obtain ⟨less, done⟩ : ∃ less, (Glob.directoriesBelow tree (tree.nodes.length + 1) place path).mapM
          (fun start => Glob.walk tree closed rest start.1 start.2) = .ok less := by
        refine Outcome.mapM_ok_iff.mpr fun start member => ?_
        obtain ⟨result, walked⟩ := each start (mem_directoriesBelow grows
          (Nat.succ_le_succ (length_nodes_le grows sound)) sound member)
        exact ih walked
      exact ⟨_, by rw [done]; rfl⟩

theorem paths_less (sound : tree.Sound) {glob : Glob} {found : List Path}
    (ran : glob.paths later path = .ok found) : ∃ less, glob.paths tree path = .ok less := by
  rw [Glob.paths, isDirectory] at ran ⊢
  obtain ⟨_, asked, ran⟩ := Outcome.bind_eq_ok.mp ran
  obtain ⟨there, looked, asked⟩ := Outcome.bind_eq_ok.mp asked
  obtain ⟨here, less, led⟩ := find?_less grows looked
  rw [less, Outcome.ok_bind]
  by_cases directory : here = some .directory
  next =>
    obtain ⟨rfl, place, located, also⟩ := led directory
    cases asked
    simp only [if_true, also] at ran
    rw [directory]
    simp only [pure, Except.pure, Outcome.ok_bind, if_true, located]
    exact walk_less grows sound ran
  next =>
    cases here with
    | none => exact ⟨_, rfl⟩
    | some node =>
      cases node with
      | directory => exact absurd rfl directory
      | file content => exact ⟨_, rfl⟩

end Grows

end FileTree

namespace Config

open FileTree

variable {outputs : Place → Prop} {tree later : FileTree} {file base : Path}

theorem search_less (grows : Grows outputs tree later) (sound : tree.Sound) {value : Datum}
    {found : List Path} (ran : search later base value = .ok found) :
    ∃ less, search tree base value = .ok less := by
  cases value with
  | text pattern =>
    rw [search] at ran ⊢
    cases made : Glob.ofText pattern with
    | error fault =>
      rw [made] at ran
      cases ran
    | ok glob =>
      rw [made] at ran
      dsimp only at ran ⊢
      cases walked : glob.paths later base with
      | error fault =>
        rw [walked] at ran
        cases ran
      | ok paths =>
        obtain ⟨less, walked⟩ := paths_less grows sound walked
        exact ⟨less, by rw [walked]; rfl⟩
  | _ => cases ran

/-- Among fewer files, a datum is read as the same configuration, but for the files to watch. -/
theorem ofDatum_less (grows : Grows outputs tree later) (sound : tree.Sound) {value : Datum}
    {config : Config} (read : ofDatum file base later value = .ok config) :
    ∃ watched, ofDatum file base tree value = .ok { config with watched := watched } := by
  rw [ofDatum] at read ⊢
  dsimp only at read ⊢
  split at read
  next fields _ =>
    split at read
    next => cases read
    next writes _ =>
      split at read
      next watch _ =>
        split at read
        next shared _ =>
          obtain ⟨entries, made, rest⟩ := Outcome.bind_eq_ok.mp read
          obtain ⟨found, searched, last⟩ := Outcome.bind_eq_ok.mp rest
          cases last
          have each := Outcome.mapM_ok_iff.mp ⟨_, searched⟩
          obtain ⟨less, done⟩ : ∃ less, watch.mapM (search tree base) = .ok less :=
            Outcome.mapM_ok_iff.mpr fun pattern member => by
              obtain ⟨_, ran⟩ := each pattern member
              exact search_less grows sound ran
          exact ⟨_, by rw [made, Outcome.ok_bind, done]; rfl⟩
        next => cases read
      next => cases read
    next => cases read
  next => cases read

end Config

end Stencil
