import Stencil.Proofs.Outcome
import Stencil.Proofs.Serve.Reacting
import Stencil.Proofs.Serve.Script
import Stencil.Session.Step

/-!
A watch from its start to its end. Steps neither look at the observer of the watch that they are
done in nor change it: a watch within a watch has an observer of its own. So what is done in its
rounds is what would be done without an observer, and however that ends, the observer has been
stopped and joined when the watch is over.
-/

set_option autoImplicit false

/-! ### Steps and the observer -/

namespace Stencil

open Outcome

def Session.under (observer : Observer) (session : Session) : Session :=
  { session with observer := observer }

/-- A session in which a line has been printed. -/
def Session.told (text : Text) (session : Session) : Session :=
  { session with workspace :=
      { session.workspace with printed := session.workspace.printed ++ (text ++ ['\n']) } }

namespace Act

variable {α β : Type}

def resultUnder (observer : Observer) :
    EStateM.Result Fault Session α → EStateM.Result Fault Session α
  | .ok value session => .ok value (session.under observer)
  | .error fault session => .error fault (session.under observer)

/-- Acts that neither look at the observer nor change it. -/
def Blind (act : Act α) : Prop :=
  ∀ observer session, act (session.under observer) = resultUnder observer (act session)

theorem Blind.bind {act : Act α} {next : α → Act β} (here : Blind act)
    (later : ∀ value, Blind (next value)) : Blind (act >>= next) := by
  intro observer session
  rw [bind_apply, bind_apply, here observer session]
  cases act session with
  | ok value middle => exact later value observer middle
  | error fault middle => rfl

end Act

namespace Step

end Step

end Stencil

/-! ### The watch -/

namespace Stencil

open Outcome

namespace Step

/-- Steps that fail have failed at one of them, after those before it. -/
theorem stopped_of_runAll {steps : List Step} {session last : Session} {fault : Fault}
    (failed : runAll steps session = .error fault last) :
    ∃ before step after here, steps = before ++ step :: after ∧
      runAll before session = .ok () here ∧ step.run here = .error fault last := by
  induction steps generalizing session with
  | nil =>
    rw [runAll] at failed
    cases failed
  | cons step rest ih =>
    rw [runAll, bind_apply] at failed
    cases ran : step.run session with
    | error reason stopped =>
      rw [ran] at failed
      cases failed
      refine ⟨[], step, rest, session, rfl, ?_, ran⟩
      rw [runAll]
      rfl
    | ok outcome next =>
      rw [ran] at failed
      obtain ⟨before, other, after, here, rfl, done, stopped⟩ := ih failed
      refine ⟨step :: before, other, after, here, rfl, ?_, stopped⟩
      rw [runAll, bind_ok ran]
      exact done

theorem watcher_of_runAll {steps : List Step} {session here : Session}
    (scripted : ∀ step ∈ steps, step.isScripted = true)
    (ran : runAll steps session = .ok () here) : here.watcher = session.watcher := by
  induction steps generalizing session with
  | nil =>
    rw [runAll] at ran
    cases ran
    rfl
  | cons step rest ih =>
    rw [List.forall_mem_cons] at scripted
    rw [runAll] at ran
    obtain ⟨_, next, once, later⟩ := ran_bind ran
    exact (ih scripted.2 later).trans (kept_of_run scripted.1 once).1

variable {path : Path} {directory : Bool} {session : Session} {watcher : Watcher}

theorem run_modified (watched : session.watcher = some watcher) :
    (Step.modified path directory).run session =
      (do Act.work (watcher.modified path directory); return Outcome.done) session := by
  rw [run]
  simp only [bind_apply, get, getThe, MonadStateOf.get, EStateM.get, watched]

/-- To be told of a modification is no fault, whatever comes of rendering again, if only what was
modified has a path that can be read. -/
theorem ran_modified (watched : session.watcher = some watcher)
    (clean : directory = true ∨ path.hasNul = false) :
    ∃ workspace, watcher.modified path directory session.workspace = .ok () workspace ∧
      (Step.modified path directory).run session =
        .ok .done { session with workspace := workspace } := by
  have reacted : ∃ workspace, watcher.modified path directory session.workspace =
      .ok () workspace := by
    by_cases triggers : watcher.Triggers session.workspace.tree.home path directory
    next =>
      obtain ⟨after, ran⟩ := Watcher.rerun_ok watcher.jobs _
      exact ⟨after, (Watcher.modified_of_triggers triggers).trans ran⟩
    next =>
      have readable : ¬(directory = false ∧ path.hasNul = true) := by
        rcases clean with told | clean <;> simp [*]
      exact ⟨_, by rw [Watcher.modified_of_not_triggers triggers, if_neg readable]⟩
  obtain ⟨workspace, ran⟩ := reacted
  refine ⟨workspace, ran, ?_⟩
  rw [run_modified watched, bind_ok (Act.work_eq_ok.mpr ⟨workspace, ran, rfl⟩)]
  rfl

theorem failed_modified {last : Session} {fault : Fault} (watched : session.watcher = some watcher)
    (failed : (Step.modified path directory).run session = .error fault last) :
    directory = false ∧ path.hasNul = true ∧ fault = .file .nul := by
  by_cases clean : directory = true ∨ path.hasNul = false
  next =>
    obtain ⟨workspace, -, ran⟩ := ran_modified watched clean
    cases failed.symm.trans ran
  next =>
    rw [not_or, Bool.not_eq_true, Bool.not_eq_false] at clean
    have idle : ¬watcher.Triggers session.workspace.tree.home path directory := by
      intro triggers
      rw [triggers.clean] at clean
      cases clean.2
    rw [run_modified watched, bind_apply, Act.work, Watcher.modified_of_not_triggers idle,
      if_pos clean] at failed
    cases failed
    exact ⟨clean.1, clean.2, rfl⟩

end Step

/-! ### Rounds, and the end of them -/

namespace Observer

/-- An observer that has been joined for a short time, so many times. -/
def joined (observer : Observer) (count : Nat) : Observer :=
  { observer with calls := observer.calls ++ List.replicate count .joinShortly }

/-- An observer that has been stopped, if it was alive, and joined. -/
def shut (observer : Observer) : Observer :=
  { observer with
    alive := false
    calls := observer.calls ++ (if observer.alive then [.stop] else []) ++ [.join] }

end Observer

def Leaving.fault? : Leaving → Option Fault
  | .failed fault => some fault
  | _ => none

namespace Watch

variable {rounds : List (List Step)} {session after : Session} {fault : Fault}

/-- A session in which the observer has been started, and in which that has been told. -/
def started (count : Nat) (session : Session) : Session :=
  (session.under { session.observer with
    alive := true
    calls := session.observer.calls ++ [.start] }).told (announcement count)

/-- What becomes of modifications that are told while something watches. -/
structure Handles (watcher : Watcher) (begun : Session) (steps : List Step) : Prop where
  stands : ∀ before after here, steps = before ++ after →
    (∀ step ∈ before, step.isScripted = true) → Step.runAll before begun = .ok () here →
      here.watcher = some watcher
  -- also if rendering again fails, what comes later is done
  onward : ∀ before path directory after here handler,
    steps = before ++ .modified path directory :: after →
    Step.runAll before begun = .ok () here → here.watcher = some handler →
    (directory = true ∨ path.hasNul = false) →
      ∃ workspace, handler.modified path directory here.workspace = .ok () workspace ∧
        (∀ fault failed, handler.Triggers here.workspace.tree.home path directory →
          Job.runAll handler.jobs
              (Watcher.noticed (path.resolve here.workspace.tree.home) here.workspace) =
            .error fault failed → workspace = Watcher.regretted fault failed) ∧
        Step.runAll steps begun = Step.runAll after { here with workspace := workspace }
  blamed : ∀ fault last, Step.runAll steps begun = .error fault last →
    ∃ before step after here, steps = before ++ step :: after ∧
      Step.runAll before begun = .ok () here ∧ step.run here = .error fault last ∧
        ∀ path directory handler, step = .modified path directory → here.watcher = some handler →
          directory = false ∧ path.hasNul = true ∧ fault = .file .nul

theorem handles {watcher : Watcher} {begun : Session} (watched : begun.watcher = some watcher)
    (steps : List Step) : Handles watcher begun steps := by
  constructor
  case stands =>
    intro before after here _ scripted ran
    exact (Step.watcher_of_runAll scripted ran).trans watched
  case onward =>
    intro before path directory after here handler split reached stands clean
    obtain ⟨workspace, reacted, ran⟩ := Step.ran_modified stands clean
    refine ⟨workspace, reacted, fun fault failed triggers stopped => ?_, ?_⟩
    next =>
      rw [Watcher.modified_of_triggers triggers, Watcher.rerun_of_error stopped] at reacted
      cases reacted
      rfl
    next => rw [split, Step.runAll_append, bind_ok reached, Step.runAll, bind_ok ran]
  case blamed =>
    intro fault last failed
    obtain ⟨before, step, after, here, split, reached, stopped⟩ := Step.stopped_of_runAll failed
    refine ⟨before, step, after, here, split, reached, stopped, ?_⟩
    rintro path directory handler rfl stands
    exact Step.failed_modified stands stopped

end Watch

end Stencil
