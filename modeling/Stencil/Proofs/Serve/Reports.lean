import Stencil.Proofs.Serve.Watching

/-!
What is said of failed attempts. An attempt itself neither reports that it has failed nor pauses;
both are done once for each attempt that fails.
-/

set_option autoImplicit false

namespace Stencil

open Outcome

/-- Whether a record says that an attempt has failed. -/
def Record.tellsFailure (record : Record) : Bool :=
  record.level == .error && record.message == "Rendering failed".toList

/-- What is reported of failed attempts. -/
def Workspace.failures (workspace : Workspace) : List Record :=
  workspace.journal.filter Record.tellsFailure

/-- That, and the files. -/
def Workspace.standing (workspace : Workspace) : List Record × FileTree :=
  (workspace.failures, workspace.tree)

def Call.isPause : Call → Bool
  | .sleep _ => true
  | _ => false

/-- What is reported of failed attempts, and the pauses that were made. -/
def Session.setbacks (session : Session) : List Record × List Call :=
  (session.workspace.failures, session.observer.calls.filter Call.isPause)

/-- That, and the files. -/
def Session.standing (session : Session) : (List Record × List Call) × FileTree :=
  (session.setbacks, session.workspace.tree)

theorem Outcome.Leaves.failures {α : Type} {work : Work α} (leaves : Leaves Workspace.standing work) :
    Leaves Workspace.failures work := fun workspace => congrArg Prod.fst (leaves workspace)

theorem Outcome.Leaves.setbacks {α : Type} {act : Act α} (leaves : Leaves Session.standing act) :
    Leaves Session.setbacks act := fun session => congrArg Prod.fst (leaves session)

namespace Work

variable {α : Type}

theorem leaves_report {level : Level} {message : Text} {cause : Option Fault}
    (other : (Record.mk level message cause).tellsFailure = false) :
    Leaves Workspace.standing (report level message cause) := by
  refine leaves_modify fun workspace => Prod.ext ?_ rfl
  unfold Workspace.standing Workspace.failures
  simp [List.filter_append, other]

theorem leaves_info (message : Text) : Leaves Workspace.standing (info message) :=
  leaves_report rfl

theorem leaves_lift (outcome : Except Fault α) : Leaves Workspace.standing (lift outcome) := by
  cases outcome with
  | ok value => exact leaves_pure value
  | error fault => exact leaves_throw fault

theorem leaves_detail (message : Text) : Leaves Workspace.standing (detail message) := by
  refine leaves_get.bind fun workspace => ?_
  split
  next => exact leaves_report rfl
  next => exact leaves_pure _

theorem leaves_script (run : Script.Run α) : Leaves Workspace.standing (script run) := by
  intro workspace
  rw [left, script]
  cases run workspace.store <;> rfl

theorem leaves_inspect (question : FileTree → Except FileFault α) :
    Leaves Workspace.standing (inspect question) :=
  leaves_get.bind fun _ => leaves_lift _

theorem leaves_change (operation : FileTree → Except FileFault FileTree) :
    Leaves Workspace.failures (change operation) :=
  (leaves_inspect operation).failures.bind fun _ => leaves_modify fun _ => rfl

theorem leaves_readText (path : Path) : Leaves Workspace.standing (readText path) := by
  refine (leaves_inspect _).bind fun content => ?_
  split
  next => exact leaves_pure _
  next => exact leaves_throw _

theorem leaves_ensureDirectories (path : Path) :
    Leaves Workspace.failures (ensureDirectories path) := by
  refine leaves_get.bind fun workspace => ?_
  refine Leaves.bind (leaves_modify fun _ => rfl) fun _ => ?_
  split
  next => exact leaves_throw _
  next => exact leaves_pure _

theorem leaves_attempt {work : Work Unit} (leaves : Leaves Workspace.failures work) :
    Leaves Workspace.failures (attempt work) := by
  intro workspace
  have same := leaves workspace
  rw [left] at same ⊢
  rw [attempt]
  cases ran : work workspace with
  | ok => simpa only [ran] using same
  | error => simpa only [ran] using same

end Work

namespace Template

theorem leaves_ofCode (name : Text) (type : ContextType) (code : Text) :
    Leaves Workspace.standing (ofCode name type code) := by
  rw [ofCode]
  split
  next => exact leaves_throw _
  next =>
    refine (Work.leaves_lift _).bind fun _ => (Work.leaves_script _).bind fun _ => ?_
    refine (Work.leaves_script _).bind fun bound => ?_
    split
    next => exact leaves_pure _
    next => exact leaves_throw _

theorem leaves_ofText (text name : Text) (type : ContextType) :
    Leaves Workspace.standing (ofText text name type) := by
  refine (Work.leaves_detail _).bind fun _ => (Work.leaves_lift _).bind fun _ => ?_
  refine (Work.leaves_detail _).bind fun _ => (Work.leaves_lift _).bind fun _ => ?_
  exact (Work.leaves_detail _).bind fun _ => leaves_ofCode _ _ _

theorem leaves_compile (path : Path) (type : ContextType) :
    Leaves Workspace.standing (compile (.file path) type []) := by
  have read : Leaves Workspace.standing (Source.file path).read := by
    refine (Work.leaves_inspect _).bind fun isFile => ?_
    split
    next => exact (Work.leaves_readText path).bind fun _ => leaves_pure _
    next => exact leaves_throw _
  rw [compile_eq]
  exact read.bind fun _ => leaves_ofText _ _ _

theorem leaves_render (template : Template) (context : Context) :
    Leaves Workspace.standing (template.render context) := by
  rw [render]
  split
  next => exact leaves_throw _
  next => exact Work.leaves_script _

end Template

namespace Job

theorem leaves_context (job : Job) : Leaves Workspace.standing job.context := by
  refine (leaves_mapM fun entry => ?_).bind fun attributes => (Work.leaves_script _).bind fun _ =>
    leaves_pure _
  split
  next => exact leaves_pure _
  next => exact leaves_throw _

theorem leaves_write (target : Path) (html : Script.Value) :
    Leaves Workspace.failures (write target html) := by
  refine (Work.leaves_ensureDirectories _).bind fun _ => (Work.leaves_change _).bind fun _ => ?_
  split
  next => exact Work.leaves_change _
  next => exact leaves_throw _

theorem leaves_runAll (jobs : List Job) : Leaves Workspace.failures (runAll jobs) := by
  induction jobs with
  | nil => exact leaves_pure _
  | cons job rest ih =>
    refine Leaves.bind ?_ fun _ => ih
    refine (leaves_context job).failures.bind fun _ => ?_
    refine (Template.leaves_compile _ _).failures.bind fun _ => ?_
    refine (Template.leaves_render _ _).failures.bind fun _ => (leaves_write _ _).bind fun _ => ?_
    exact (Work.leaves_info _).failures

theorem leaves_makeValues (entries : Datum.Entries) :
    Leaves Workspace.standing (makeValues entries) :=
  leaves_mapM fun _ => (Work.leaves_script _).bind fun _ => leaves_pure _

theorem leaves_ofConfig (config : Config) : Leaves Workspace.standing (ofConfig config) :=
  (leaves_makeValues _).bind fun _ => leaves_mapM fun _ => (leaves_makeValues _).bind fun _ =>
    leaves_pure _

end Job

namespace Watcher

theorem leaves_resolve (path : Path) : Leaves Workspace.standing (Work.resolve path) := by
  rw [Work.resolve]
  split
  next => exact leaves_throw _
  next => exact leaves_get.bind fun _ => leaves_pure _

theorem leaves_make (files : List Path) (jobs : List Job) :
    Leaves Workspace.standing (make files jobs) :=
  (leaves_mapM leaves_resolve).bind fun _ => (Work.leaves_info _).bind fun _ => leaves_pure _

/-- A fault of rendering again is reported too, but not as the failure of an attempt. -/
theorem leaves_modified (watcher : Watcher) (path : Path) (directory : Bool) :
    Leaves Workspace.failures (watcher.modified path directory) := by
  rw [modified]
  split
  next =>
    refine (leaves_resolve path).failures.bind fun _ => ?_
    split
    next =>
      refine (Work.leaves_info _).failures.bind fun _ => ?_
      refine (Work.leaves_attempt (Job.leaves_runAll _)).bind fun fault => ?_
      cases fault with
      | none => exact leaves_pure _
      | some fault => exact (Work.leaves_report (by rfl)).failures
    next => exact leaves_pure _
  next => exact leaves_pure _

end Watcher

namespace Serve

theorem leaves_loadJobs (file : Path) : Leaves Workspace.standing (loadJobs file) := by
  have loads : Leaves Workspace.standing (Config.load file .here) :=
    (Work.leaves_readText _).bind fun _ => (Work.leaves_lift _).bind fun _ =>
      leaves_get.bind fun _ => Work.leaves_lift _
  exact loads.bind fun _ => (Job.leaves_ofConfig _).bind fun _ => leaves_pure _

theorem leaves_render (file : Path) : Leaves Workspace.failures (render file) :=
  (leaves_loadJobs file).failures.bind fun _ => (Job.leaves_runAll _).bind fun _ => leaves_pure _

end Serve

namespace Act

variable {α : Type}

theorem leaves_work {work : Work α} (leaves : Leaves Workspace.failures work) :
    Leaves Session.setbacks (Act.work work) := by
  intro session
  have same := leaves session.workspace
  rw [left] at same ⊢
  rw [Act.work]
  cases ran : work session.workspace with
  | ok value workspace =>
    simp only [ran] at same
    exact Prod.ext same rfl
  | error fault workspace =>
    simp only [ran] at same
    exact Prod.ext same rfl

theorem stands_work {work : Work α} (leaves : Leaves Workspace.standing work) :
    Leaves Session.standing (Act.work work) := by
  intro session
  have same := leaves session.workspace
  refine Prod.ext (leaves_work leaves.failures session) ?_
  rw [left] at same ⊢
  rw [Act.work]
  cases ran : work session.workspace with
  | ok value workspace =>
    simp only [ran] at same
    exact (Prod.ext_iff.mp same).2
  | error fault workspace =>
    simp only [ran] at same
    exact (Prod.ext_iff.mp same).2

theorem stands_call {call : Call} (other : call.isPause = false) :
    Leaves Session.standing (Act.call call) := by
  refine leaves_modify fun session => Prod.ext (Prod.ext rfl ?_) rfl
  simp [Session.standing, Session.setbacks, List.filter_append, other]

theorem leaves_attempt {act : Act α} (leaves : Leaves Session.setbacks act) :
    Leaves Session.setbacks (attempt act) := by
  intro session
  have same := leaves session
  rw [left] at same ⊢
  rw [attempt]
  cases ran : act session with
  | ok => simpa only [ran] using same
  | error => simpa only [ran] using same

end Act

namespace Watch

theorem leaves_follow {rounds : List (Act Unit)}
    (each : ∀ round ∈ rounds, Leaves Session.setbacks round) (interrupted : Bool) :
    Leaves Session.setbacks (follow interrupted rounds) := by
  induction rounds with
  | nil =>
    refine (Act.stands_call rfl).setbacks.bind fun _ => ?_
    split
    next => exact leaves_pure _
    next => exact Leaves.bind (leaves_modify fun _ => rfl) fun _ => leaves_pure _
  | cons round rest ih =>
    rw [List.forall_mem_cons] at each
    refine (Act.stands_call rfl).setbacks.bind fun _ => (Act.leaves_attempt each.1).bind fun result => ?_
    cases result with
    | ok => exact ih each.2
    | error => exact leaves_pure _

theorem stands_printLine (text : Text) :
    Leaves Session.standing (Act.work (Work.printLine text)) :=
  Act.stands_work (leaves_modify fun _ => rfl)

theorem stands_close : Leaves Session.standing close := by
  refine leaves_get.bind fun session => ?_
  split
  next => exact (Act.stands_call rfl).bind fun _ => (Act.stands_call rfl).bind fun _ => stands_printLine _
  next => exact (Act.stands_call rfl).bind fun _ => stands_printLine _

theorem leaves_observe {course : Course} (each : ∀ round ∈ course.rounds, Leaves Session.setbacks round)
    (count : Nat) : Leaves Session.setbacks (observe count course) := by
  refine (Act.stands_call rfl).setbacks.bind fun _ => (stands_printLine _).setbacks.bind fun _ => ?_
  refine (leaves_follow each _).bind fun (leaving, _) => ?_
  cases leaving with
  | ended => exact stands_close.setbacks.bind fun _ => leaves_pure _
  | interrupted =>
    exact (stands_printLine _).setbacks.bind fun _ => stands_close.setbacks.bind fun _ => leaves_pure _
  | failed fault => exact stands_close.setbacks.bind fun _ => leaves_pure _

theorem stands_prepare (jobs : List Job) (paths : List Path) :
    Leaves Session.standing (prepare jobs paths) := by
  have schedules (watcher : Watcher) (directories : List Path) :
      Leaves Session.standing (scheduleAll watcher directories) := by
    refine (leaves_filterM fun _ => Act.stands_work (Work.leaves_inspect _)).bind fun _ => ?_
    refine (leaves_forM fun directory => ?_).bind fun _ => ?_
    · exact Leaves.bind (leaves_modify fun _ => rfl) fun _ => Act.stands_work (Work.leaves_info _)
    · exact (leaves_forM fun _ => Act.stands_work (Work.leaves_report rfl)).bind fun _ =>
        leaves_pure _
  rw [prepare]
  split
  next => exact (Act.stands_work (Work.leaves_report (by rfl))).bind fun _ => leaves_pure _
  next =>
    refine (Act.stands_work (Watcher.leaves_make _ _)).bind fun _ => (schedules _ _).bind fun _ => ?_
    split
    next => exact (Act.stands_work (Work.leaves_report (by rfl))).bind fun _ => leaves_pure _
    next => exact leaves_pure _

end Watch

namespace Serve

/-- However an attempt ends, it says nothing of failing and makes no pause itself. -/
theorem leaves_attempted {course : Course}
    (each : ∀ round ∈ course.rounds, Leaves Session.setbacks round) (file : Path) :
    Leaves Session.setbacks (attempted file course) := by
  have tries : Leaves Session.setbacks (tryOnce file course) := by
    refine (Act.leaves_work (leaves_render file)).bind fun (jobs, paths) => ?_
    refine (Watch.stands_prepare jobs paths).setbacks.bind fun prepared => ?_
    cases prepared with
    | none => exact leaves_pure _
    | some found => exact Watch.leaves_observe each _
  refine (Act.leaves_attempt tries).bind fun result => ?_
  cases result with
  | ok => exact leaves_pure _
  | error => exact leaves_pure _

end Serve

end Stencil
