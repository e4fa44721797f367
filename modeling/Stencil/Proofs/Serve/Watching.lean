import Stencil.Proofs.Job.Running
import Stencil.Proofs.Relocation.Loading
import Stencil.Session.Serve
import Stencil.Session.Step

/-!
What a run of the program watches. It ends well with one rendering if the configuration can be
loaded and its jobs can be run. As long as files are only changed and modifications told, each round
of a watch begins while jobs are watched that a configuration gave.
-/

set_option autoImplicit false

/-! ### Rendering once -/

namespace Stencil

theorem Work.lift_eq_ok {α : Type} {outcome : Except Fault α} {value : α}
    {workspace done : Workspace} :
    Work.lift outcome workspace = .ok value done ↔ outcome = .ok value ∧ done = workspace := by
  cases outcome with
  | error fault => simp [Work.lift, throw, throwThe, MonadExceptOf.throw, EStateM.throw]
  | ok found => simp [Work.lift, Outcome.pure_apply, eq_comm]

namespace Config

variable {file base : Path} {config : Config} {workspace done : Workspace}

/-- Whether a file gives a configuration, in view of the other files that are there. -/
def Gives (tree : FileTree) (file base : Path) (config : Config) : Prop :=
  ∃ text value, tree.Tells file text ∧ (Yaml.load text).mapError yamlFault = .ok value ∧
    ofDatum file base tree value = .ok config

theorem load_eq_ok :
    load file base workspace = .ok config done ↔
      Gives workspace.tree file base config ∧ done = workspace := by
  constructor
  · intro loaded
    obtain ⟨text, _, read, parsed⟩ := Outcome.ran_bind loaded
    obtain ⟨tells, rfl⟩ := Work.readText_eq_ok.mp read
    obtain ⟨value, _, lifted, asked⟩ := Outcome.ran_bind parsed
    obtain ⟨found, rfl⟩ := Work.lift_eq_ok.mp lifted
    obtain ⟨_, _, got, made⟩ := Outcome.ran_bind asked
    cases got
    obtain ⟨read, rfl⟩ := Work.lift_eq_ok.mp made
    exact ⟨⟨text, value, tells, found, read⟩, rfl⟩
  · rintro ⟨⟨text, value, tells, parsed, made⟩, rfl⟩
    rw [load, Outcome.bind_ok (Work.readText_eq_ok.mpr ⟨tells, rfl⟩),
      Outcome.bind_ok (Work.lift_eq_ok.mpr ⟨parsed, rfl⟩)]
    exact Work.lift_eq_ok.mpr ⟨made, rfl⟩

end Config

namespace Serve

variable {file : Path} {config : Config} {jobs : List Job} {paths : List Path}
variable {workspace loaded done : Workspace}

theorem loadJobs_eq_ok :
    loadJobs file workspace = .ok (config, jobs) loaded ↔
      Config.Gives workspace.tree file .here config ∧
        Job.ofConfig config workspace = .ok jobs loaded := by
  constructor
  · intro ran
    obtain ⟨_, _, read, rest⟩ := Outcome.ran_bind ran
    obtain ⟨given, rfl⟩ := Config.load_eq_ok.mp read
    obtain ⟨_, _, made, last⟩ := Outcome.ran_bind rest
    cases last
    exact ⟨given, made⟩
  · rintro ⟨given, made⟩
    rw [loadJobs, Outcome.bind_ok (Config.load_eq_ok.mpr ⟨given, rfl⟩), Outcome.bind_ok made]
    rfl

theorem render_eq_ok :
    render file workspace = .ok (jobs, paths) done ↔
      ∃ config loaded, loadJobs file workspace = .ok (config, jobs) loaded ∧
        Job.runAll jobs loaded = .ok () done ∧ paths = config.watched ++ [file] := by
  constructor
  · intro ran
    obtain ⟨⟨config, jobs⟩, loaded, made, rest⟩ := Outcome.ran_bind ran
    obtain ⟨_, _, rendered, last⟩ := Outcome.ran_bind rest
    cases last
    exact ⟨config, loaded, made, rendered, rfl⟩
  · rintro ⟨config, loaded, made, rendered, rfl⟩
    rw [render, Outcome.bind_ok made]
    dsimp only
    rw [Outcome.bind_ok rendered]
    rfl

/-- Once the level of detail is set, a run that renders once is what it renders. -/
theorem run_once {arguments : List Text} {line : CommandLine} {course : Course}
    {pauses : List (Act Unit)} {session : Session} {result : List Job × List Path}
    (parsed : CommandLine.parse arguments = .ok line) (once : line.once = true)
    (rendered : render (Path.ofText line.config)
      { session.workspace with verbose := line.verbose } = .ok result done) :
    run arguments course pauses session = .ok (.returned 0)
      { session with workspace := { done with verbose := session.workspace.verbose } } := by
  have worked : Act.work (render (Path.ofText line.config))
      { session with workspace := { session.workspace with verbose := line.verbose } } =
        .ok result { session with workspace := done } := by
    rw [Act.work, rendered]
  have attempted : Act.attempt (do
      let _ ← Act.work (render (Path.ofText line.config))
      return Ending.returned 0)
        { session with workspace := { session.workspace with verbose := line.verbose } } =
        .ok (.ok (.returned 0)) { session with workspace := done } := by
    rw [Act.attempt, Outcome.bind_ok worked]
    rfl
  have started : setVerbose line.verbose session = .ok session.workspace.verbose
      { session with workspace := { session.workspace with verbose := line.verbose } } := rfl
  rw [run, parsed]
  simp only [once, if_true]
  rw [Outcome.bind_ok started, Outcome.bind_ok attempted]
  rfl

end Serve

end Stencil

/-! ### Watching -/

namespace Stencil

/-- Steps that change files, or tell of a modification. -/
def Step.isScripted : Step → Bool
  | .write .. | .makeDirectory .. | .remove .. | .modified .. => true
  | _ => false

theorem FileTree.home_of_remove {tree removed : FileTree} {path : Path}
    (done : tree.remove path = .ok removed) : removed.home = tree.home := by
  obtain ⟨place, -, erased⟩ := Outcome.bind_eq_ok.mp done
  cases here : tree.node? place with
  | none =>
    rw [here] at erased
    cases erased
  | some node =>
    rw [here] at erased
    cases node <;> cases erased
    rfl

namespace Act

variable {α : Type} {session after : Session} {value : α}

theorem work_eq_ok {work : Work α} :
    Act.work work session = .ok value after ↔
      ∃ workspace, work session.workspace = .ok value workspace ∧
        after = { session with workspace := workspace } := by
  rw [Act.work]
  cases work session.workspace <;> simp [eq_comm]

end Act

namespace Watcher

variable {home : Place} {outputs : Place → Prop} {watcher : Watcher}

theorem expands_rerun {jobs : List Job}
    (targets : ∀ job ∈ jobs, outputs (job.target.resolve home)) :
    Work.Expands home outputs (rerun jobs) := by
  refine (Job.expands_runAll targets).attempt.bind fun fault => ?_
  cases fault with
  | none => exact Work.expands_pure ()
  | some fault => exact Work.expands_report _ _ _

theorem expands_resolve (path : Path) : Work.Expands home outputs (Work.resolve path) := by
  intro workspace _
  rw [Outcome.left, Work.resolve]
  cases path.hasNul <;> exact .refl ..

theorem expands_modified (targets : ∀ job ∈ watcher.jobs, outputs (job.target.resolve home))
    (path : Path) (directory : Bool) : Work.Expands home outputs (watcher.modified path directory) := by
  rw [modified]
  split
  next =>
    refine (expands_resolve path).bind fun place => ?_
    split
    next => exact (Work.expands_report _ _ _).bind fun _ => expands_rerun targets
    next => exact Work.expands_pure ()
  next => exact Work.expands_pure ()

end Watcher

/-- Steps of a script leave the watcher, and the place from which paths are read. -/
theorem Step.kept_of_run {step : Step} {session after : Session} {outcome : Outcome}
    (scripted : step.isScripted = true) (ran : step.run session = .ok outcome after) :
    after.watcher = session.watcher ∧
      after.workspace.tree.home = session.workspace.tree.home := by
  have worked {work : Work Unit} (expands : ∀ home, Work.Expands home (fun _ => True) work)
      (ran : (do Act.work work; return Outcome.done) session = .ok outcome after) :
      after.watcher = session.watcher ∧
        after.workspace.tree.home = session.workspace.tree.home := by
    obtain ⟨_, _, worked, last⟩ := Outcome.ran_bind ran
    obtain ⟨workspace, done, rfl⟩ := Act.work_eq_ok.mp worked
    cases last
    exact ⟨rfl, ((expands _).of_ok rfl done).home⟩
  cases step with
  | write path content =>
    rw [run] at ran
    refine worked (fun _ => Work.expands_ensureDirectories.bind fun _ => ?_) ran
    exact Work.expands_change trivial
  | makeDirectory path =>
    rw [run] at ran
    exact worked (fun _ => Work.expands_ensureDirectories) ran
  | remove path =>
    rw [run] at ran
    obtain ⟨_, _, worked, last⟩ := Outcome.ran_bind ran
    obtain ⟨workspace, done, rfl⟩ := Act.work_eq_ok.mp worked
    obtain ⟨tree, removed, rfl⟩ := Work.change_eq_ok.mp done
    cases last
    exact ⟨rfl, FileTree.home_of_remove removed⟩
  | modified path directory =>
    rw [run] at ran
    obtain ⟨_, _, got, rest⟩ := Outcome.ran_bind ran
    cases got
    cases watched : session.watcher with
    | none =>
      rw [watched] at rest
      cases rest
    | some watcher =>
      rw [watched] at rest
      exact watched ▸ worked (fun _ => Watcher.expands_modified (fun _ _ => trivial) path directory) rest
  | _ => cases scripted

namespace Act

variable {α β : Type} {kept : Session → Prop}

/-- Acts that leave something true of a session, if they succeed. -/
def Preserves (kept : Session → Prop) (act : Act α) : Prop :=
  ∀ session value after, kept session → act session = .ok value after → kept after

theorem preserves_pure (value : α) : Preserves kept (pure value) := by
  intro session _ after held ran
  cases ran
  exact held

theorem Preserves.bind {act : Act α} {next : α → Act β} (here : Preserves kept act)
    (later : ∀ value, Preserves kept (next value)) : Preserves kept (act >>= next) := by
  intro session _ after held ran
  obtain ⟨value, middle, first, rest⟩ := Outcome.ran_bind ran
  exact later value middle _ after (here session value middle held first) rest

theorem preserves_forM {items : List α} {one : α → Act Unit}
    (each : ∀ item, Preserves kept (one item)) : Preserves kept (items.forM one) := by
  induction items with
  | nil => exact preserves_pure ()
  | cons item rest ih => exact (each item).bind fun _ => ih

theorem preserves_filterM {items : List α} {test : α → Act Bool}
    (each : ∀ item, Preserves kept (test item)) : Preserves kept (items.filterM test) := by
  have taken (found : List α) : Preserves kept (items.filterAuxM test found) := by
    induction items generalizing found with
    | nil => exact preserves_pure _
    | cons item rest ih => exact (each item).bind fun _ => ih _
  exact (taken []).bind fun _ => preserves_pure _

/-- Whether a session's watcher and the place from which its paths are read are given ones. -/
def Stands (watcher : Option Watcher) (home : Place) (session : Session) : Prop :=
  session.watcher = watcher ∧ session.workspace.tree.home = home

variable {watcher : Option Watcher} {home : Place}

theorem preserves_work {work : Work α}
    (expands : Work.Expands home (fun _ => True) work) :
    Preserves (Stands watcher home) (Act.work work) := by
  intro session value after held ran
  obtain ⟨workspace, done, rfl⟩ := work_eq_ok.mp ran
  exact ⟨held.1, (expands.of_ok held.2 done).home.trans held.2⟩

end Act

namespace Watch

variable {watcher : Watcher} {home : Place}

def scheduleOne (watcher : Watcher) (directory : Path) : Act Unit := do
  Act.schedule watcher directory false
  Act.work (Work.info ("Scheduled watcher for directory: ".toList ++ directory.display))

theorem stands_of_scheduleOne {directory : Path} {session after : Session}
    (started : session.workspace.tree.home = home)
    (ran : scheduleOne watcher directory session = .ok () after) :
    Act.Stands (some watcher) home after := by
  obtain ⟨_, middle, set, noted⟩ := Outcome.ran_bind ran
  have scheduled : Act.Stands (some watcher) home middle := by
    cases set
    exact ⟨rfl, started⟩
  exact Act.preserves_work (Work.expands_report _ _ _) _ _ _ scheduled noted

theorem stands_of_scheduleAll {directories : List Path} {session later : Session} {count : Nat}
    (ran : scheduleAll watcher directories session = .ok count later) (some_there : count ≠ 0)
    (started : session.workspace.tree.home = home) : Act.Stands (some watcher) home later := by
  obtain ⟨present, first, filtered, rest⟩ := Outcome.ran_bind ran
  have same : Act.Stands session.watcher home first :=
    Act.preserves_filterM (fun _ => Act.preserves_work (Work.expands_inspect _)) session present
      first ⟨rfl, started⟩ filtered
  obtain ⟨_, second, scheduled, warned⟩ := Outcome.ran_bind rest
  obtain ⟨_, third, reported, last⟩ := Outcome.ran_bind warned
  cases last
  refine Act.preserves_forM (fun _ => Act.preserves_work (Work.expands_report _ _ _)) second _ _ ?_
    reported
  cases present with
  | nil => exact absurd rfl some_there
  | cons directory others =>
    obtain ⟨_, middle, one, rest⟩ := Outcome.ran_bind scheduled
    exact Act.preserves_forM (fun _ _ _ _ held => stands_of_scheduleOne held.2) middle _ _
      (stands_of_scheduleOne same.2 one) rest

theorem resolve_eq_ok {path : Path} {workspace done : Workspace} {place : Place} :
    Work.resolve path workspace = .ok place done ↔
      path.hasNul = false ∧ place = path.resolve workspace.tree.home ∧ done = workspace := by
  rw [Work.resolve]
  cases path.hasNul with
  | true => simp [Outcome.bind_apply, throw, throwThe, MonadExceptOf.throw, EStateM.throw]
  | false =>
    simp only [Bool.false_eq_true, if_false, true_and]
    constructor
    · intro ran
      cases ran
      exact ⟨rfl, rfl⟩
    · rintro ⟨rfl, rfl⟩
      rfl

theorem places_of_make {files : List Path} {jobs : List Job} {workspace done : Workspace}
    {watcher : Watcher} (made : Watcher.make files jobs workspace = .ok watcher done) :
    watcher = ⟨files.map fun path => path.resolve workspace.tree.home, jobs⟩ ∧
      done.tree = workspace.tree := by
  obtain ⟨places, first, resolved, rest⟩ := Outcome.ran_bind made
  have found : places = (files.map fun path => path.resolve workspace.tree.home) ∧
      first = workspace := by
    clear made rest
    induction files generalizing places first with
    | nil =>
      cases resolved
      exact ⟨rfl, rfl⟩
    | cons path others ih =>
      rw [List.mapM_cons] at resolved
      obtain ⟨place, _, one, more⟩ := Outcome.ran_bind resolved
      obtain ⟨-, rfl, rfl⟩ := resolve_eq_ok.mp one
      obtain ⟨behind, _, all, last⟩ := Outcome.ran_bind more
      obtain ⟨rfl, rfl⟩ := ih _ _ all
      cases last
      exact ⟨rfl, rfl⟩
  obtain ⟨rfl, rfl⟩ := found
  cases rest
  exact ⟨rfl, rfl⟩

theorem stands_of_prepare {jobs : List Job} {paths : List Path} {session later : Session}
    {count : Nat} (ran : prepare jobs paths session = .ok (some (watcher, count)) later) :
    watcher = ⟨(Watcher.files jobs paths).map fun path =>
      path.resolve session.workspace.tree.home, jobs⟩ ∧
        Act.Stands (some watcher) session.workspace.tree.home later := by
  rw [prepare] at ran
  split at ran
  next =>
    obtain ⟨_, _, _, last⟩ := Outcome.ran_bind ran
    cases last
  next =>
    obtain ⟨found, _, making, rest⟩ := Outcome.ran_bind ran
    obtain ⟨workspace, made, rfl⟩ := Act.work_eq_ok.mp making
    obtain ⟨places, same⟩ := places_of_make made
    obtain ⟨number, middle, scheduled, last⟩ := Outcome.ran_bind rest
    split at last
    next =>
      obtain ⟨_, _, _, absent⟩ := Outcome.ran_bind last
      cases absent
    next there =>
      cases last
      exact ⟨places, stands_of_scheduleAll scheduled there (congrArg FileTree.home same)⟩

end Watch

namespace Serve

/-- Whether a session watches what a file gave as a configuration, the way it was loaded. -/
structure Watches (file : Path) (config : Config) (jobs : List Job) (loaded : Workspace)
    (session : Session) : Prop where
  made : ∃ start, loadJobs file start = .ok (config, jobs) loaded
  stands : Act.Stands
    (some ⟨(Watcher.files jobs (config.watched ++ [file])).map fun path =>
      path.resolve loaded.tree.home, jobs⟩) loaded.tree.home session

def Watching (file : Path) (session : Session) : Prop :=
  ∃ config jobs loaded, Watches file config jobs loaded session

variable {file : Path} {session after : Session}

theorem Watching.kept (watching : Watching file session) (watcher : after.watcher = session.watcher)
    (home : after.workspace.tree.home = session.workspace.tree.home) : Watching file after := by
  obtain ⟨config, jobs, loaded, made, stands⟩ := watching
  exact ⟨config, jobs, loaded, made, watcher.trans stands.1, home.trans stands.2⟩

/-- Acts that do the same wherever something is watched, and leave it watched. -/
def Alike (file : Path) (one other : Act Unit) : Prop :=
  ∀ session, Watching file session → one session = other session ∧
    ∀ value after, other session = .ok value after → Watching file after

structure CoursesAlike (file : Path) (one other : Course) : Prop where
  rounds : List.Forall₂ (Alike file) one.rounds other.rounds
  interrupted : one.interrupted = other.interrupted

/-- Ends of attempts that differ in no more than what is left of their courses. -/
inductive EndAlike (file : Path) :
    EStateM.Result Fault Session (Option Fault × Course) →
      EStateM.Result Fault Session (Option Fault × Course) → Prop where
  | ok {fault : Option Fault} {one other : Course} {after : Session}
      (alike : CoursesAlike file one other) : EndAlike file (.ok (fault, one) after) (.ok (fault, other) after)
  | error {fault : Fault} {after : Session} : EndAlike file (.error fault after) (.error fault after)

theorem follow_alike {one other : List (Act Unit)} (alike : List.Forall₂ (Alike file) one other)
    (interrupted : Bool) (watching : Watching file session) :
    ∃ leaving left right after, Watch.follow interrupted one session = .ok (leaving, left) after ∧
      Watch.follow interrupted other session = .ok (leaving, right) after ∧
        CoursesAlike file left right := by
  induction alike generalizing session with
  | nil =>
    cases interrupted with
    | true => exact ⟨_, _, _, _, rfl, rfl, .nil, rfl⟩
    | false => exact ⟨_, _, _, _, rfl, rfl, .nil, rfl⟩
  | cons same rest ih =>
    obtain ⟨joined, called⟩ : ∃ joined, Act.call .joinShortly session = .ok () joined := ⟨_, rfl⟩
    have still : Watching file joined := by
      cases called
      exact watching.kept rfl rfl
    obtain ⟨equal, onward⟩ := same joined still
    rw [Watch.follow, Watch.follow, Outcome.bind_ok called, Outcome.bind_ok called,
      Outcome.bind_apply, Outcome.bind_apply, Act.attempt, Act.attempt, equal]
    split
    next ran =>
      split at ran
      next done =>
        cases ran
        exact ih (onward _ _ done)
      next =>
        cases ran
        exact ⟨_, _, _, _, rfl, rfl, rest, rfl⟩
    next ran => split at ran <;> cases ran

theorem close_ok (session : Session) : ∃ after, Watch.close session = .ok () after := by
  rw [Watch.close]
  simp only [Outcome.bind_apply, get, getThe, MonadStateOf.get, EStateM.get]
  split
  next => exact ⟨_, rfl⟩
  next => exact ⟨_, rfl⟩

theorem observe_alike {one other : Course} (alike : CoursesAlike file one other) (count : Nat)
    (watching : Watching file session) :
    EndAlike file (Watch.observe count one session) (Watch.observe count other session) := by
  obtain ⟨started, called⟩ : ∃ started, Act.call .start session = .ok () started := ⟨_, rfl⟩
  obtain ⟨told, printed⟩ : ∃ told, Act.work (Work.printLine (Watch.announcement count)) started =
    .ok () told := ⟨_, rfl⟩
  have still : Watching file told := by
    cases called
    cases printed
    exact watching.kept rfl rfl
  obtain ⟨leaving, left, right, last, first, second, same⟩ :=
    follow_alike alike.rounds one.interrupted still
  rw [Watch.observe, Watch.observe, Outcome.bind_ok called, Outcome.bind_ok called,
    Outcome.bind_ok printed, Outcome.bind_ok printed, ← alike.interrupted, Outcome.bind_ok first,
    Outcome.bind_ok second]
  cases leaving with
  | ended =>
    obtain ⟨closed, done⟩ := close_ok last
    dsimp only
    rw [Outcome.bind_ok done, Outcome.bind_ok done]
    exact .ok same
  | interrupted =>
    obtain ⟨stopping, noted⟩ : ∃ stopping, Act.work (Work.printLine
      "\nStopping watcher (Ctrl+C pressed)...".toList) last = .ok () stopping := ⟨_, rfl⟩
    obtain ⟨closed, done⟩ := close_ok stopping
    dsimp only
    rw [Outcome.bind_ok noted, Outcome.bind_ok noted, Outcome.bind_ok done, Outcome.bind_ok done]
    exact .ok same
  | failed fault =>
    obtain ⟨closed, done⟩ := close_ok last
    dsimp only
    rw [Outcome.bind_ok done, Outcome.bind_ok done]
    exact .ok same

theorem tryOnce_alike {one other : Course} (alike : CoursesAlike file one other)
    (session : Session) : EndAlike file (tryOnce file one session) (tryOnce file other session) := by
  rw [tryOnce, tryOnce, Outcome.bind_apply, Outcome.bind_apply]
  cases rendered : Act.work (render file) session with
  | error fault after => exact .error
  | ok found after =>
    obtain ⟨jobs, paths⟩ := found
    dsimp only
    obtain ⟨workspace, done, rfl⟩ := Act.work_eq_ok.mp rendered
    obtain ⟨config, loaded, made, ran, rfl⟩ := render_eq_ok.mp done
    rw [Watch.run, Watch.run, Outcome.bind_apply, Outcome.bind_apply]
    cases prepared : Watch.prepare jobs (config.watched ++ [file])
        { session with workspace := workspace } with
    | error fault last => exact .error
    | ok found last =>
      cases found with
      | none => exact .ok alike
      | some found =>
        obtain ⟨watcher, count⟩ := found
        dsimp only
        obtain ⟨rfl, stands⟩ := Watch.stands_of_prepare prepared
        have home := (Job.grows_of_runAll ran).home
        refine observe_alike alike count ⟨config, jobs, loaded, ⟨_, made⟩, ?_⟩
        rw [← home]
        exact stands

theorem attempted_alike {one other : Course} (alike : CoursesAlike file one other)
    (session : Session) :
    ∃ fault left right after, attempted file one session = .ok (fault, left) after ∧
      attempted file other session = .ok (fault, right) after ∧ CoursesAlike file left right := by
  have met := tryOnce_alike alike session
  rw [attempted, attempted, Outcome.bind_apply, Outcome.bind_apply, Act.attempt, Act.attempt]
  generalize tryOnce file one session = first at met ⊢
  generalize tryOnce file other session = second at met ⊢
  cases met with
  | ok same => exact ⟨_, _, _, _, rfl, rfl, same⟩
  | error => exact ⟨_, _, _, _, rfl, rfl, alike⟩

theorem keepTrying_alike {one other : Course} (alike : CoursesAlike file one other)
    (pauses : List (Act Unit)) (session : Session) :
    keepTrying file pauses one session = keepTrying file pauses other session := by
  induction pauses generalizing one other session with
  | nil =>
    obtain ⟨fault, left, right, after, first, second, -⟩ := attempted_alike alike session
    rw [keepTrying, keepTrying, Outcome.bind_ok first, Outcome.bind_ok second]
    cases fault <;> rfl
  | cons filling rest ih =>
    obtain ⟨fault, left, right, after, first, second, same⟩ := attempted_alike alike session
    rw [keepTrying, keepTrying, Outcome.bind_ok first, Outcome.bind_ok second]
    cases fault with
    | none => rfl
    | some fault =>
      dsimp only
      rw [show keepTrying file rest left = keepTrying file rest right from
        funext fun session => ih same session]

/-- Only what is done in the rounds of a watch tells courses apart. -/
theorem run_alike {arguments : List Text} {line : CommandLine} {one other : Course}
    (parsed : CommandLine.parse arguments = .ok line)
    (alike : CoursesAlike (Path.ofText line.config) one other) (pauses : List (Act Unit))
    (session : Session) : run arguments one pauses session = run arguments other pauses session := by
  have same : keepTrying (Path.ofText line.config) pauses one =
      keepTrying (Path.ofText line.config) pauses other :=
    funext fun session => keepTrying_alike alike pauses session
  rw [run, run, parsed]
  simp only [same]

end Serve

end Stencil
