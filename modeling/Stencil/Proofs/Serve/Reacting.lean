import Stencil.Proofs.Job.Order
import Stencil.Proofs.Job.Setback
import Stencil.Proofs.Serve.Watching

/-!
What a watcher does when it is told of a modification. Rendering again never fails as a whole: a
fault is reported, and what was done by then stays.
-/

set_option autoImplicit false

namespace Stencil

open Outcome

variable {jobs : List Job} {watcher : Watcher} {path : Path} {directory : Bool}
variable {workspace last : Workspace} {fault : Fault}

theorem Work.resolve_of_nul (nul : path.hasNul = true) :
    resolve path workspace = .error (.file .nul) workspace := by
  simp [resolve, nul, bind_apply, throw, throwThe, MonadExceptOf.throw, EStateM.throw]

namespace Watcher

/-- A workspace in which it has been reported that a file was modified. -/
def noticed (place : Place) (workspace : Workspace) : Workspace :=
  { workspace with journal := workspace.journal ++
      [⟨.info, "Detected modification in: ".toList ++ Place.display place, none⟩] }

/-- A workspace in which a fault of rendering again has been reported. -/
def regretted (fault : Fault) (workspace : Workspace) : Workspace :=
  { workspace with journal := workspace.journal ++
      [⟨.error, "Re-render failed".toList, some fault⟩] }

theorem rerun_of_ok (ran : Job.runAll jobs workspace = .ok () last) :
    rerun jobs workspace = .ok () last := by
  have attempted : Work.attempt (Job.runAll jobs) workspace = .ok none last := by
    rw [Work.attempt, ran]
  rw [rerun, bind_ok attempted]
  rfl

theorem rerun_of_error (failed : Job.runAll jobs workspace = .error fault last) :
    rerun jobs workspace = .ok () (regretted fault last) := by
  have attempted : Work.attempt (Job.runAll jobs) workspace = .ok (some fault) last := by
    rw [Work.attempt, failed]
  rw [rerun, bind_ok attempted]
  rfl

theorem rerun_ok (jobs : List Job) (workspace : Workspace) :
    ∃ after, rerun jobs workspace = .ok () after := by
  cases ran : Job.runAll jobs workspace with
  | ok value last => exact ⟨last, rerun_of_ok ran⟩
  | error fault last => exact ⟨_, rerun_of_error ran⟩

/-- Whether a watcher renders again when it is told that something was modified. -/
structure Triggers (watcher : Watcher) (home : Place) (path : Path) (directory : Bool) : Prop where
  file : directory = false
  clean : path.hasNul = false
  watched : path.resolve home ∈ watcher.places

theorem modified_of_triggers (triggers : watcher.Triggers workspace.tree.home path directory) :
    watcher.modified path directory workspace =
      rerun watcher.jobs (noticed (path.resolve workspace.tree.home) workspace) := by
  obtain ⟨rfl, clean, watched⟩ := triggers
  rw [modified]
  simp only [Bool.not_false, if_true]
  rw [bind_ok (Watch.resolve_eq_ok.mpr ⟨clean, rfl, rfl⟩)]
  simp only [List.contains_eq_mem, watched, decide_true, if_true]
  rfl

theorem modified_of_not_triggers
    (idle : ¬watcher.Triggers workspace.tree.home path directory) :
    watcher.modified path directory workspace =
      if directory = false ∧ path.hasNul = true then .error (.file .nul) workspace
      else .ok () workspace := by
  cases directory with
  | true => rfl
  | false =>
    rw [modified]
    simp only [Bool.not_false, if_true, true_and]
    cases nul : path.hasNul with
    | true => rw [bind_apply, Work.resolve_of_nul nul, if_pos rfl]
    | false =>
      have unwatched : path.resolve workspace.tree.home ∉ watcher.places :=
        fun watched => idle ⟨rfl, nul, watched⟩
      rw [bind_ok (Watch.resolve_eq_ok.mpr ⟨nul, rfl, rfl⟩)]
      simp only [List.contains_eq_mem, unwatched, decide_false, Bool.false_eq_true, if_false]
      rfl

end Watcher

end Stencil
