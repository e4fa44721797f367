import Stencil.Proofs.Serve.Script

/-!
The attempts of a run that watches. However one ends, it has written no more than the targets of the
jobs that it loaded, and the run goes on with the next attempt after a report and a pause.
-/

set_option autoImplicit false

namespace Stencil

open Outcome FileTree

/-- Steps that tell of a modification. -/
def Step.tellsModified : Step → Bool
  | .modified .. => true
  | _ => false

/-- Whether nothing is done in the rounds of a course but to tell of modifications. -/
def Course.Tells (course : Course) : Prop :=
  ∀ round ∈ course.rounds, ∃ steps, (∀ step ∈ steps, step.tellsModified = true) ∧
    round = Step.runAll steps

theorem Course.Tells.leaves {course : Course} (tells : course.Tells) :
    ∀ round ∈ course.rounds, Leaves Session.setbacks round := by
  intro round member
  obtain ⟨steps, told, rfl⟩ := tells round member
  refine Step.leaves_runAll fun step inside => ?_
  have telling := told step inside
  cases step with
  | modified path directory =>
    rw [Step.run]
    refine leaves_get.bind fun session => ?_
    split
    next =>
      exact (Act.leaves_work (Watcher.leaves_modified _ path directory)).bind fun _ => leaves_pure _
    next => exact leaves_throw _
  | _ => cases telling

namespace Act

variable {α β : Type} {watcher : Watcher} {home : Place} {outputs : Place → Prop}

/-- Acts that keep what is watched, and only write outputs and make directories, however far they
get. -/
def Expands (watcher : Watcher) (home : Place) (outputs : Place → Prop) (act : Act α) : Prop :=
  ∀ session, Stands (some watcher) home session →
    Stands (some watcher) home (left act session) ∧
      Grows outputs session.workspace.tree (left act session).workspace.tree

theorem expands_pure (value : α) : Expands watcher home outputs (pure value : Act α) :=
  fun _ stands => ⟨stands, .refl ..⟩

theorem expands_throw (fault : Fault) : Expands watcher home outputs (throw fault : Act α) :=
  fun _ stands => ⟨stands, .refl ..⟩

theorem expands_get : Expands watcher home outputs (get : Act Session) :=
  fun _ stands => ⟨stands, .refl ..⟩

theorem expands_call (call : Call) : Expands watcher home outputs (Act.call call) :=
  fun _ stands => ⟨stands, .refl ..⟩

theorem expands_endObserver : Expands watcher home outputs endObserver :=
  fun _ stands => ⟨stands, .refl ..⟩

theorem Expands.bind {act : Act α} {next : α → Act β} (here : Expands watcher home outputs act)
    (later : ∀ value, Expands watcher home outputs (next value)) :
    Expands watcher home outputs (act >>= next) := by
  intro session stands
  have first := here session stands
  rw [left] at first ⊢
  rw [bind_apply]
  cases ran : act session with
  | ok value middle =>
    simp only [ran] at first
    have second := later value middle first.1
    exact ⟨second.1, first.2.trans second.2⟩
  | error fault middle => simpa only [ran] using first

theorem Expands.attempt {act : Act α} (expands : Expands watcher home outputs act) :
    Expands watcher home outputs (attempt act) := by
  intro session stands
  have kept := expands session stands
  rw [left] at kept ⊢
  rw [Act.attempt]
  cases ran : act session with
  | ok => simpa only [ran] using kept
  | error => simpa only [ran] using kept

theorem expands_work {work : Work α} (expands : Work.Expands home outputs work) :
    Expands watcher home outputs (Act.work work) := by
  intro session stands
  have grows := expands session.workspace stands.2
  rw [left] at grows ⊢
  rw [Act.work]
  cases ran : work session.workspace with
  | ok value workspace =>
    simp only [ran] at grows
    exact ⟨⟨stands.1, grows.home.trans stands.2⟩, grows⟩
  | error fault workspace =>
    simp only [ran] at grows
    exact ⟨⟨stands.1, grows.home.trans stands.2⟩, grows⟩

theorem expands_modified (targets : ∀ job ∈ watcher.jobs, outputs (job.target.resolve home))
    (path : Path) (directory : Bool) :
    Expands watcher home outputs (Step.modified path directory).run := by
  intro session stands
  have expands : Expands watcher home outputs (do
      Act.work (watcher.modified path directory)
      return Outcome.done) :=
    (expands_work (Watcher.expands_modified targets path directory)).bind fun _ => expands_pure _
  have same : (Step.modified path directory).run session = (do
      Act.work (watcher.modified path directory)
      return Outcome.done) session := by
    rw [Step.run]
    simp only [bind_apply, get, getThe, MonadStateOf.get, EStateM.get, stands.1]
  rw [left, same]
  exact expands session stands

theorem expands_round {steps : List Step} (tells : ∀ step ∈ steps, step.tellsModified = true)
    (targets : ∀ job ∈ watcher.jobs, outputs (job.target.resolve home)) :
    Expands watcher home outputs (Step.runAll steps) := by
  induction steps with
  | nil =>
    rw [Step.runAll]
    exact expands_pure _
  | cons step rest ih =>
    rw [List.forall_mem_cons] at tells
    rw [Step.runAll]
    refine Expands.bind ?_ fun _ => ih tells.2
    cases step with
    | modified path directory => exact expands_modified targets path directory
    | _ => cases tells.1

end Act

namespace Watch

variable {watcher : Watcher} {home : Place} {outputs : Place → Prop} {course rest : Course}
variable {rounds : List (Act Unit)} {interrupted : Bool} {session after : Session}

theorem expands_printLine (text : Text) :
    Act.Expands watcher home outputs (Act.work (Work.printLine text)) :=
  Act.expands_work fun _ _ => .refl ..

theorem expands_follow (each : ∀ round ∈ rounds, Act.Expands watcher home outputs round) :
    Act.Expands watcher home outputs (follow interrupted rounds) := by
  induction rounds with
  | nil =>
    refine (Act.expands_call _).bind fun _ => ?_
    split
    next => exact Act.expands_pure _
    next => exact Act.expands_endObserver.bind fun _ => Act.expands_pure _
  | cons round rest ih =>
    rw [List.forall_mem_cons] at each
    refine (Act.expands_call _).bind fun _ => each.1.attempt.bind fun result => ?_
    cases result with
    | ok => exact ih each.2
    | error => exact Act.expands_pure _

theorem expands_close : Act.Expands watcher home outputs close := by
  refine Act.expands_get.bind fun session => ?_
  split
  next =>
    exact (Act.expands_call _).bind fun _ => (Act.expands_call _).bind fun _ => expands_printLine _
  next => exact (Act.expands_call _).bind fun _ => expands_printLine _

theorem expands_observe (each : ∀ round ∈ course.rounds, Act.Expands watcher home outputs round)
    (count : Nat) : Act.Expands watcher home outputs (observe count course) := by
  refine (Act.expands_call _).bind fun _ => (expands_printLine _).bind fun _ => ?_
  refine (expands_follow each).bind fun (leaving, rest) => ?_
  cases leaving with
  | interrupted =>
    exact (expands_printLine _).bind fun _ => expands_close.bind fun _ => Act.expands_pure _
  | _ => exact expands_close.bind fun _ => Act.expands_pure _

theorem rounds_of_follow {leaving : Leaving}
    (ran : follow interrupted rounds session = .ok (leaving, rest) after) :
    ∀ round ∈ rest.rounds, round ∈ rounds := by
  induction rounds generalizing session with
  | nil =>
    obtain ⟨_, _, -, last⟩ := ran_bind ran
    split at last
    next =>
      cases last
      exact fun _ absent => absurd absent List.not_mem_nil
    next =>
      obtain ⟨_, _, -, last⟩ := ran_bind last
      cases last
      exact fun _ absent => absurd absent List.not_mem_nil
  | cons round others ih =>
    obtain ⟨_, _, -, ran⟩ := ran_bind ran
    obtain ⟨result, _, -, ran⟩ := ran_bind ran
    cases result with
    | ok => exact fun one member => List.mem_cons_of_mem _ (ih ran one member)
    | error =>
      cases ran
      exact fun one member => List.mem_cons_of_mem _ member

theorem rounds_of_observe {count : Nat} {fault : Option Fault}
    (ran : observe count course session = .ok (fault, rest) after) :
    ∀ round ∈ rest.rounds, round ∈ course.rounds := by
  obtain ⟨_, _, -, ran⟩ := ran_bind ran
  obtain ⟨_, _, -, ran⟩ := ran_bind ran
  obtain ⟨⟨leaving, left⟩, _, followed, ran⟩ := ran_bind ran
  have same : left = rest := by
    cases leaving with
    | interrupted =>
      obtain ⟨_, _, -, ran⟩ := ran_bind ran
      obtain ⟨_, _, -, ran⟩ := ran_bind ran
      cases ran
      rfl
    | _ =>
      obtain ⟨_, _, -, ran⟩ := ran_bind ran
      cases ran
      rfl
  exact same ▸ rounds_of_follow followed

theorem rounds_of_run {jobs : List Job} {paths : List Path} {fault : Option Fault}
    (ran : run jobs paths course session = .ok (fault, rest) after) :
    ∀ round ∈ rest.rounds, round ∈ course.rounds := by
  obtain ⟨prepared, _, -, ran⟩ := ran_bind ran
  cases prepared with
  | none =>
    cases ran
    exact fun _ member => member
  | some found => exact rounds_of_observe ran

end Watch

namespace Serve

variable {file : Path} {course rest : Course} {session after : Session} {outputs : Place → Prop}

theorem attempted_eq (file : Path) (course : Course) (session : Session) :
    attempted file course session =
      match tryOnce file course session with
      | .ok (fault, rest) after => .ok (fault, rest) after
      | .error fault after => .ok (some fault, course) after := by
  rw [attempted, bind_apply, Act.attempt]
  cases tryOnce file course session <;> rfl

theorem rounds_of_attempted {fault : Option Fault}
    (ran : attempted file course session = .ok (fault, rest) after) :
    ∀ round ∈ rest.rounds, round ∈ course.rounds := by
  rw [attempted_eq] at ran
  split at ran
  next tried =>
    cases ran
    obtain ⟨⟨jobs, paths⟩, _, -, ran⟩ := ran_bind tried
    exact Watch.rounds_of_run ran
  next =>
    cases ran
    exact fun _ member => member

/-- Where no jobs can be loaded, an attempt does nothing to the files. -/
theorem tree_of_attempted {failure : Fault} {loaded : Workspace}
    (unloaded : loadJobs file session.workspace = .error failure loaded)
    {fault : Option Fault} (ran : attempted file course session = .ok (fault, rest) after) :
    after.workspace.tree = session.workspace.tree := by
  have same := (leaves_loadJobs file).of_error unloaded
  have rendered : Act.work (render file) session =
      .error failure { session with workspace := loaded } := by
    rw [Act.work, render, bind_apply, unloaded]
  rw [attempted_eq, tryOnce, bind_apply, rendered] at ran
  cases ran
  exact (Prod.ext_iff.mp same).2

/-- An attempt that has loaded jobs writes no more than their targets. -/
theorem grows_of_attempted {config : Config} {jobs : List Job} {loaded : Workspace}
    (made : loadJobs file session.workspace = .ok (config, jobs) loaded)
    (targets : ∀ job ∈ jobs, outputs (job.target.resolve session.workspace.tree.home))
    (tells : course.Tells) {fault : Option Fault}
    (ran : attempted file course session = .ok (fault, rest) after) :
    Grows outputs session.workspace.tree after.workspace.tree := by
  have start : loaded.tree = session.workspace.tree :=
    (Prod.ext_iff.mp ((leaves_loadJobs file).of_ok made)).2
  have expands := Job.expands_runAll targets loaded (congrArg _ start)
  have tried : left (tryOnce file course) session = after := by
    rw [attempted_eq] at ran
    rw [left]
    split at ran <;> (cases ran; simp only [*])
  rw [← tried, ← start, left, tryOnce, bind_apply, Act.work, render, bind_apply, made]
  dsimp only
  rw [bind_apply]
  rw [left] at expands
  cases rendered : Job.runAll jobs loaded with
  | error failure workspace => simpa only [rendered] using expands
  | ok _ workspace =>
    simp only [rendered, pure_apply] at expands ⊢
    rw [Watch.run, bind_apply]
    have stays := Watch.stands_prepare jobs (config.watched ++ [file])
      { session with workspace := workspace }
    rw [left] at stays
    cases prepared : Watch.prepare jobs (config.watched ++ [file])
        { session with workspace := workspace } with
    | error failure last =>
      simp only [prepared] at stays ⊢
      have kept : last.workspace.tree = workspace.tree := (Prod.ext_iff.mp stays).2
      rwa [kept]
    | ok found last =>
      simp only [prepared] at stays ⊢
      have kept : last.workspace.tree = workspace.tree := (Prod.ext_iff.mp stays).2
      rw [← kept] at expands
      cases found with
      | none => exact expands
      | some found =>
        obtain ⟨watcher, count⟩ := found
        obtain ⟨same, stands⟩ := Watch.stands_of_prepare prepared
        have each : ∀ round ∈ course.rounds,
            Act.Expands watcher workspace.tree.home outputs round := by
          intro round member
          obtain ⟨steps, told, rfl⟩ := tells round member
          rw [same, ← kept, expands.home, start]
          exact Act.expands_round told targets
        exact expands.trans (Watch.expands_observe each count last stands).2

/-- How a run gets to an attempt: each attempt before it has failed, which was reported, and what the
pause was filled with was done. -/
inductive Tried (file : Path) (begun : Session) (course : Course) :
    List (List Step) → List Fault → Session → Course → Prop where
  | first : Tried file begun course [] [] begun course
  | again {fillings : List (List Step)} {faults : List Fault} {session middle paused next : Session}
      {remaining rest : Course} {fault : Fault} {filling : List Step}
      (before : Tried file begun course fillings faults session remaining)
      (failed : attempted file remaining session = .ok (some fault, rest) middle)
      (reported : reportFault fault middle = .ok () paused)
      (filled : Step.runAll filling paused = .ok () next) :
      Tried file begun course (fillings ++ [filling]) (faults ++ [fault]) next rest

/-- How a run goes that tries until an attempt ends without a fault: with the attempts before it, or
with no pause left, or with a fault of what a pause was filled with. -/
inductive Closed (file : Path) (begun : Session) (course : Course) (pauses : List (List Step)) :
    List Fault → EStateM.Result Fault Session Ending → Prop where
  | returned {fillings : List (List Step)} {faults : List Fault} {session after : Session}
      {remaining rest : Course} (within : fillings <+: pauses)
      (before : Tried file begun course fillings faults session remaining)
      (ended : attempted file remaining session = .ok (none, rest) after) :
      Closed file begun course pauses faults (.ok (.returned 0) after)
  | stopped {faults : List Fault} {session middle after : Session} {remaining rest : Course}
      {fault : Fault} (before : Tried file begun course pauses faults session remaining)
      (failed : attempted file remaining session = .ok (some fault, rest) middle)
      (reported : reportFault fault middle = .ok () after) :
      Closed file begun course pauses (faults ++ [fault]) (.ok .stopped after)
  | broken {fillings : List (List Step)} {faults : List Fault}
      {session middle paused after : Session} {remaining rest : Course} {fault failure : Fault}
      {filling : List Step} (within : fillings ++ [filling] <+: pauses)
      (before : Tried file begun course fillings faults session remaining)
      (failed : attempted file remaining session = .ok (some fault, rest) middle)
      (reported : reportFault fault middle = .ok () paused)
      (broke : Step.runAll filling paused = .error failure after) :
      Closed file begun course pauses (faults ++ [fault]) (.error failure after)

/-- What is said of attempts that have failed: a report and a pause for each. -/
def setbacksOf (faults : List Fault) : List Record × List Call :=
  (faults.map fun fault => ⟨.error, "Rendering failed".toList, some fault⟩,
    faults.map fun _ => .sleep pause)

theorem tree_of_report {fault : Fault} (reported : reportFault fault session = .ok () after) :
    after.workspace.tree = session.workspace.tree := by
  cases reported
  rfl

theorem setbacks_of_report {fault : Fault} {faults : List Fault}
    (before : session.setbacks = setbacksOf faults) (reported : reportFault fault session = .ok () after) :
    after.setbacks = setbacksOf (faults ++ [fault]) := by
  obtain ⟨told, slept⟩ := Prod.ext_iff.mp before
  cases reported
  refine Prod.ext ?_ ?_
  · simpa [Session.setbacks, Workspace.failures, setbacksOf, Record.tellsFailure] using told
  · have pauses : [Call.sleep pause].filter Call.isPause = [.sleep pause] := rfl
    simpa [Session.setbacks, setbacksOf, pauses] using slept

end Serve

end Stencil
