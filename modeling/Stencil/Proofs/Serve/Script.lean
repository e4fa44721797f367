import Stencil.Proofs.Files.Sound
import Stencil.Proofs.Serve.Reports

/-!
Scripts of changes of files. Two trees one of which has grown from the other stay so when the same
changes are made in both.
-/

set_option autoImplicit false

namespace Stencil

open Outcome FileTree

/-- Steps that change files and do nothing else. -/
def Step.changesFiles : Step → Bool
  | .write .. | .makeDirectory .. | .remove .. => true
  | _ => false

/-- What a step that changes files makes of them. -/
inductive FileTree.Changed : Step → FileTree → FileTree → Prop where
  | written {path : Path} {content : ByteArray} {tree made later : FileTree}
      (ensured : ensureDirectories path.parent.slashes path.parent.names.reverse tree = (made, none))
      (wrote : made.write path content = .ok later) : Changed (.write path content) tree later
  | made {path : Path} {tree later : FileTree}
      (ensured : ensureDirectories path.slashes path.names.reverse tree = (later, none)) :
      Changed (.makeDirectory path) tree later
  | removed {path : Path} {tree later : FileTree} (done : tree.remove path = .ok later) :
      Changed (.remove path) tree later

namespace FileTree

variable {step : Step} {tree one other later grown : FileTree} {place : Place}

theorem Changed.unique (first : Changed step tree one) (second : Changed step tree other) :
    one = other := by
  cases first with
  | written ensured wrote =>
    cases second with
    | written again rewrote =>
      cases ensured.symm.trans again
      cases wrote.symm.trans rewrote
      rfl
  | made ensured =>
    cases second with
    | made again =>
      cases ensured.symm.trans again
      rfl
  | removed done =>
    cases second with
    | removed again =>
      cases done.symm.trans again
      rfl

theorem Changed.sound (changed : Changed step tree later) (sound : tree.Sound) : later.Sound := by
  have ensures {path : Path} {made : FileTree}
      (ensured : ensureDirectories path.slashes path.names.reverse tree = (made, none)) :
      made.Sound := by
    have kept := sound.ensureDirectories path.slashes path.names.reverse
    rwa [ensured] at kept
  cases changed with
  | written ensured wrote => exact (ensures ensured).write wrote
  | made ensured => exact ensures ensured
  | removed done => exact sound.remove done

theorem Changed.home (changed : Changed step tree later) : later.home = tree.home := by
  cases changed with
  | written ensured wrote =>
    obtain ⟨-, -, making⟩ := made_of_ensureDirectories ensured
    obtain ⟨_, -, -, rfl⟩ := write_eq_ok.mp wrote
    exact making.home
  | made ensured => exact (made_of_ensureDirectories ensured).2.2.home
  | removed done => exact home_of_remove done

/-- Changes of files make directories, and none of them goes away. -/
theorem Changed.directory (changed : Changed step tree later)
    (there : tree.node? place = some .directory) : later.node? place = some .directory := by
  cases changed with
  | @written _ _ _ made _ ensured wrote =>
    obtain ⟨-, -, making⟩ := made_of_ensureDirectories ensured
    obtain ⟨written, -, free, rfl⟩ := write_eq_ok.mp wrote
    have below : written ≠ [] := by
      rintro rfl
      exact free rfl
    have kept : made.node? place = some .directory := by
      rw [making.node, there, ite_self]
    rw [node?_put _ _ _ _ below, if_neg, kept]
    rintro rfl
    exact free kept
  | made ensured => rw [(made_of_ensureDirectories ensured).2.2.node, there, ite_self]
  | removed done =>
    obtain ⟨gone, content, -, file, rfl⟩ := remove_eq_ok.mp done
    rw [node?_erase (ne_root_of_file file), if_neg, there]
    rintro rfl
    rw [there] at file
    cases file

theorem Changed.both {outputs : Place → Prop} (grows : Grows outputs tree grown)
    (first : Changed step tree one) (second : Changed step grown other) : Grows outputs one other := by
  cases first with
  | written ensured wrote =>
    cases second with
    | written again rewrote =>
      obtain ⟨-, -, making⟩ := made_of_ensureDirectories ensured
      obtain ⟨-, -, remaking⟩ := made_of_ensureDirectories again
      have before := grows.both_made making (grows.home ▸ remaking)
      obtain ⟨place, located, free, rfl⟩ := write_eq_ok.mp wrote
      obtain ⟨_, relocated, apart, rfl⟩ := write_eq_ok.mp rewrote
      cases relocated.symm.trans (before.locate located)
      exact before.both_put free apart
  | made ensured =>
    cases second with
    | made again =>
      obtain ⟨-, -, making⟩ := made_of_ensureDirectories ensured
      obtain ⟨-, -, remaking⟩ := made_of_ensureDirectories again
      exact grows.both_made making (grows.home ▸ remaking)
  | removed done =>
    cases second with
    | removed again =>
      obtain ⟨place, content, located, file, rfl⟩ := remove_eq_ok.mp done
      obtain ⟨_, _, relocated, -, rfl⟩ := remove_eq_ok.mp again
      cases relocated.symm.trans (grows.locate located)
      exact grows.both_erase (ne_root_of_file file)

end FileTree

namespace Step

variable {step : Step} {steps more : List Step} {session middle after : Session} {outcome : Outcome}

theorem changed_of_run (changes : step.changesFiles = true)
    (ran : step.run session = .ok outcome after) :
    ∃ later, Changed step session.workspace.tree later ∧
      after = { session with workspace := { session.workspace with tree := later } } := by
  cases step with
  | write path content =>
    rw [run] at ran
    obtain ⟨_, _, worked, last⟩ := ran_bind ran
    obtain ⟨_, done, rfl⟩ := Act.work_eq_ok.mp worked
    obtain ⟨_, _, ensured, changed⟩ := ran_bind done
    obtain ⟨_, made, rfl⟩ := Work.ensureDirectories_eq_ok.mp ensured
    obtain ⟨_, wrote, rfl⟩ := Work.change_eq_ok.mp changed
    cases last
    exact ⟨_, .written made wrote, rfl⟩
  | makeDirectory path =>
    rw [run] at ran
    obtain ⟨_, _, worked, last⟩ := ran_bind ran
    obtain ⟨_, done, rfl⟩ := Act.work_eq_ok.mp worked
    obtain ⟨_, made, rfl⟩ := Work.ensureDirectories_eq_ok.mp done
    cases last
    exact ⟨_, .made made, rfl⟩
  | remove path =>
    rw [run] at ran
    obtain ⟨_, _, worked, last⟩ := ran_bind ran
    obtain ⟨_, done, rfl⟩ := Act.work_eq_ok.mp worked
    obtain ⟨_, removed, rfl⟩ := Work.change_eq_ok.mp done
    cases last
    exact ⟨_, .removed removed, rfl⟩
  | _ => cases changes

theorem home_of_runAll (changes : ∀ step ∈ steps, step.changesFiles = true)
    (ran : runAll steps session = .ok () after) :
    after.workspace.tree.home = session.workspace.tree.home := by
  induction steps generalizing session with
  | nil =>
    rw [runAll] at ran
    cases ran
    rfl
  | cons step rest ih =>
    rw [List.forall_mem_cons] at changes
    rw [runAll] at ran
    obtain ⟨_, _, once, later⟩ := ran_bind ran
    obtain ⟨_, changed, rfl⟩ := changed_of_run changes.1 once
    exact (ih changes.2 later).trans changed.home

theorem leaves_run (changes : step.changesFiles = true) : Leaves Session.setbacks step.run := by
  cases step with
  | write path content =>
    rw [run]
    refine (Act.leaves_work ?_).bind fun _ => leaves_pure _
    exact (Work.leaves_ensureDirectories _).bind fun _ => Work.leaves_change _
  | makeDirectory path =>
    rw [run]
    exact (Act.leaves_work (Work.leaves_ensureDirectories _)).bind fun _ => leaves_pure _
  | remove path =>
    rw [run]
    exact (Act.leaves_work (Work.leaves_change _)).bind fun _ => leaves_pure _
  | _ => cases changes

theorem leaves_runAll {γ : Type} {look : Session → γ} (each : ∀ step ∈ steps, Leaves look step.run) :
    Leaves look (runAll steps) := by
  induction steps with
  | nil =>
    rw [runAll]
    exact leaves_pure _
  | cons step rest ih =>
    rw [List.forall_mem_cons] at each
    rw [runAll]
    exact each.1.bind fun _ => ih each.2

theorem runAll_append (steps more : List Step) :
    runAll (steps ++ more) = (do runAll steps; runAll more) := by
  induction steps with
  | nil =>
    rw [runAll]
    rfl
  | cons step rest ih =>
    rw [List.cons_append, runAll, runAll, ih]
    simp only [bind_assoc]

end Step

end Stencil
