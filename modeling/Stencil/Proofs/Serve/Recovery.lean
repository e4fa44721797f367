import Stencil.Proofs.Files.Search
import Stencil.Proofs.Serve.Agreement
import Stencil.Proofs.Serve.Attempts

/-!
What an attempt writes that gets to the watching, however far the attempts before it have got: what a
run that renders once writes where none of them has been made.
-/

set_option autoImplicit false

namespace Stencil

open Outcome FileTree

namespace Job

/-- Jobs that have been run had their sources from the start, if none of them is a target. -/
theorem sources_of_runAll {jobs : List Job} {workspace done : Workspace}
    (ran : runAll jobs workspace = .ok () done)
    (apart : ∀ one ∈ jobs, ∀ job ∈ jobs,
      one.target.resolve workspace.tree.home ≠ job.source.resolve workspace.tree.home) :
    ∀ job ∈ jobs, ∃ content,
      workspace.tree.node? (job.source.resolve workspace.tree.home) = some (.file content) := by
  induction jobs generalizing workspace with
  | nil => exact fun _ absent => absurd absent List.not_mem_nil
  | cons job rest ih =>
    obtain ⟨_, middle, once, later⟩ := ran_bind ran
    obtain ⟨_, isOpen, delivered⟩ := delivered_of_run once
    have grows : Grows (· = job.target.resolve workspace.tree.home) workspace.tree middle.tree :=
      delivered.grows isOpen rfl
    rw [List.forall_mem_cons]
    constructor
    · obtain ⟨text, -, -, -, ⟨content, -, read, -⟩, -⟩ := run_eq_ok.mp once
      obtain ⟨place, located, file⟩ := read_eq_ok.mp read
      obtain ⟨-, -, rfl⟩ := locate_eq_ok.mp located
      exact ⟨content, file⟩
    · intro one member
      obtain ⟨content, file⟩ := ih later (by
        rw [delivered.home]
        exact fun one member other inside =>
          apart one (List.mem_cons_of_mem _ member) other (List.mem_cons_of_mem _ inside)) one member
      rw [delivered.home] at file
      refine ⟨content, (grows.kept _ content fun same => ?_).mpr file⟩
      exact apart job (List.mem_cons_self ..) one (List.mem_cons_of_mem _ member) same.symm

end Job

namespace Serve

/-- How the files of a run stand to files on which only the script of its pauses was run. The way to
the configuration is there without anything that attempts have made. -/
structure Beside (outputs : Place → Prop) (file : Path) (plain tree : FileTree) : Prop where
  grows : Grows outputs plain tree
  sound : plain.Sound
  led : tree = plain ∨ ∀ place ∈ file.route plain.home, plain.node? place = some .directory

variable {file : Path} {outputs : Place → Prop} {plain tree one other : FileTree} {step : Step}

theorem Beside.changed (beside : Beside outputs file plain tree) (first : Changed step plain one)
    (second : Changed step tree other) : Beside outputs file one other := by
  refine ⟨first.both beside.grows second, first.sound beside.sound, ?_⟩
  obtain same | led := beside.led
  · exact .inl (second.unique (same ▸ first))
  · rw [first.home]
    exact .inr fun place member => first.directory (led place member)

theorem Beside.runAll {steps : List Step} {session after alone last : Session}
    (beside : Beside outputs file alone.workspace.tree session.workspace.tree)
    (changes : ∀ step ∈ steps, step.changesFiles = true)
    (ran : Step.runAll steps session = .ok () after) (also : Step.runAll steps alone = .ok () last) :
    Beside outputs file last.workspace.tree after.workspace.tree := by
  induction steps generalizing session alone with
  | nil =>
    rw [Step.runAll] at ran also
    cases ran
    cases also
    exact beside
  | cons step rest ih =>
    rw [List.forall_mem_cons] at changes
    rw [Step.runAll] at ran also
    obtain ⟨_, _, first, ran⟩ := ran_bind ran
    obtain ⟨_, _, second, also⟩ := ran_bind also
    obtain ⟨_, changed, rfl⟩ := Step.changed_of_run changes.1 first
    obtain ⟨_, again, rfl⟩ := Step.changed_of_run changes.1 second
    exact ih (beside.changed again changed) changes.2 ran also

theorem Beside.attempted {session after : Session} {course rest : Course} {fault : Option Fault}
    (beside : Beside outputs file plain session.workspace.tree)
    (targets : ∀ config jobs loaded, loadJobs file session.workspace = .ok (config, jobs) loaded →
      ∀ job ∈ jobs, outputs (job.target.resolve plain.home))
    (tells : course.Tells) (ran : attempted file course session = .ok (fault, rest) after) :
    Beside outputs file plain after.workspace.tree := by
  cases made : loadJobs file session.workspace with
  | error failure loaded =>
    rw [tree_of_attempted made ran]
    exact beside
  | ok found loaded =>
    obtain ⟨config, jobs⟩ := found
    have home := beside.grows.home
    have grows := grows_of_attempted made (home ▸ targets config jobs loaded made) tells ran
    refine ⟨beside.grows.trans grows, beside.sound, .inr ?_⟩
    obtain same | led := beside.led
    · obtain ⟨_, _, ⟨_, _, read, -, -⟩, -, -⟩ := (loadJobs_eq_ok.mp made).1
      obtain ⟨_, located, -⟩ := read_eq_ok.mp read
      rw [← same]
      exact (locate_eq_ok.mp located).2.1
    · exact led

/-- Without what attempts have made, the configuration is the same, but for the files to watch. -/
theorem Beside.gives (beside : Beside outputs file plain tree)
    (apart : ¬outputs (file.resolve plain.home)) {config : Config}
    (given : Config.Gives tree file .here config) :
    ∃ watched, Config.Gives plain file .here { config with watched := watched } := by
  obtain ⟨text, value, ⟨content, written, read, decoded, told⟩, parsed, made⟩ := given
  have also : plain.read file = .ok content := by
    obtain ⟨place, located, there⟩ := read_eq_ok.mp read
    obtain ⟨usable, way, rfl⟩ := locate_eq_ok.mp located
    rw [beside.grows.home] at way there
    refine read_eq_ok.mpr ⟨_, locate_eq_ok.mpr ⟨usable, ?_, rfl⟩,
      (beside.grows.kept _ content apart).mpr there⟩
    exact beside.led.elim (fun same => same ▸ way) id
  obtain ⟨watched, less⟩ := Config.ofDatum_less beside.grows beside.sound made
  exact ⟨watched, text, value, ⟨content, written, also, decoded, told⟩, parsed, less⟩

/-- Whether some attempt of a run loads jobs. -/
def Loads (file : Path) (begun : Session) (course : Course) (pauses : List (List Step))
    (jobs : List Job) : Prop :=
  ∃ fillings faults session remaining config loaded, fillings <+: pauses ∧
    Tried file begun course fillings faults session remaining ∧
      loadJobs file session.workspace = .ok (config, jobs) loaded

section Tried

variable {begun session : Session} {course remaining : Course} {pauses fillings : List (List Step)}
variable {faults : List Fault}

theorem Tried.tells (tried : Tried file begun course fillings faults session remaining)
    (tells : course.Tells) : remaining.Tells := by
  induction tried with
  | first => exact tells
  | again _ failed _ _ ih => exact fun round member => ih round (rounds_of_attempted failed round member)

/-- Each attempt that has failed was reported once, and one pause was made for it. -/
theorem Tried.setbacks (tried : Tried file begun course fillings faults session remaining)
    (tells : course.Tells) (changes : ∀ steps ∈ fillings, ∀ step ∈ steps, step.changesFiles = true)
    (nothing : begun.setbacks = setbacksOf []) : session.setbacks = setbacksOf faults := by
  induction tried with
  | first => exact nothing
  | again before failed reported filled ih =>
    have kept := ih fun steps member => changes steps (List.mem_append_left _ member)
    have each := changes _ (List.mem_append_right _ (List.mem_singleton_self _))
    have quiet := (leaves_attempted (before.tells tells).leaves file).of_ok failed
    have told := setbacks_of_report (quiet.trans kept) reported
    exact ((Step.leaves_runAll fun step member => Step.leaves_run (each step member)).of_ok filled).trans
      told

/-- What has been done to the files when an attempt begins. -/
theorem Tried.beside (tried : Tried file begun course fillings faults session remaining)
    (tells : course.Tells) (changes : ∀ steps ∈ pauses, ∀ step ∈ steps, step.changesFiles = true)
    (within : fillings <+: pauses) (sound : begun.workspace.tree.Sound)
    (targets : ∀ jobs, Loads file begun course pauses jobs →
      ∀ job ∈ jobs, outputs (job.target.resolve begun.workspace.tree.home))
    {alone last : Session} (start : alone.workspace.tree = begun.workspace.tree)
    (ran : Step.runAll fillings.flatten alone = .ok () last) :
    Beside outputs file last.workspace.tree session.workspace.tree ∧
      last.workspace.tree.home = begun.workspace.tree.home := by
  induction tried generalizing last with
  | first =>
    rw [List.flatten_nil, Step.runAll] at ran
    cases ran
    rw [start]
    exact ⟨⟨.refl .., sound, .inl rfl⟩, rfl⟩
  | again before failed reported filled ih =>
    have earlier := (List.prefix_append _ _).trans within
    have each := changes _ (within.subset (List.mem_append_right _ (List.mem_singleton_self _)))
    rw [List.flatten_append, List.flatten_singleton, Step.runAll_append] at ran
    obtain ⟨_, middle, first, second⟩ := ran_bind ran
    obtain ⟨beside, home⟩ := ih earlier first
    have tried := beside.attempted (fun config jobs loaded made => by
      rw [home]
      exact targets jobs ⟨_, _, _, _, config, loaded, earlier, before, made⟩) (before.tells tells) failed
    rw [← tree_of_report reported] at tried
    exact ⟨tried.runAll each filled second, (Step.home_of_runAll each second).trans home⟩

end Tried

/-- Whether a path leads out of no directory again that is in one tree only, unless something else
makes that directory. -/
def Straight (made : Place → Prop) (tree : FileTree) (path : Path) (other : FileTree) : Prop :=
  ∀ place ∈ path.route tree.home, tree.node? place = some .directory →
    other.node? place = some .directory ∨ made place ∨ place <+: path.resolve tree.home

theorem Straight.leads {made : Place → Prop} {path : Path} {content : ByteArray}
    (straight : Straight made tree path plain) (beside : Beside outputs file plain tree)
    (apart : ¬outputs (path.resolve tree.home))
    (there : tree.node? (path.resolve tree.home) = some (.file content)) :
    tree.Leads made path plain := by
  have also := (beside.grows.kept _ content apart).mpr there
  refine ⟨fun place member led => ?_, fun held => (beside.grows.kept _ held apart).mpr⟩
  obtain same | led' | before := straight place member led
  · exact .inl same
  · exact .inr led'
  · refine .inl (beside.sound.directory_of_prefix also before ?_)
    rintro rfl
    rw [there] at led
    cases led

/-- Whether no source of jobs leads out of a directory again that is in one tree only, unless a job
before it makes that directory. -/
def StraightIn (tree plain : FileTree) (jobs : List Job) : Prop :=
  ∀ before job after, jobs = before ++ job :: after →
    Straight (Job.Leading plain.home before) tree job.source plain

/-- Whether the targets of jobs hold what every run that renders once writes there among other
files. -/
def Renders (file : Path) (jobs : List Job) (tree plain : FileTree) : Prop :=
  ∀ arguments line course pauses, CommandLine.parse arguments = .ok line → line.once = true →
    Path.ofText line.config = file →
    ∃ last, run arguments course pauses (Session.ofTree plain) = .ok (.returned 0) last ∧
      ∀ job ∈ jobs, ∃ content,
        tree.node? (job.target.resolve plain.home) = some (.file content) ∧
          last.workspace.tree.node? (job.target.resolve plain.home) = some (.file content)

/-- What an attempt writes, a run that renders once writes where only the script was run. -/
theorem Beside.render {session : Session} {jobs : List Job} {paths : List Path} {done : Workspace}
    (beside : Beside outputs file plain session.workspace.tree)
    (rendered : render file session.workspace = .ok (jobs, paths) done)
    (targets : ∀ job ∈ jobs, outputs (job.target.resolve plain.home))
    (apart : ¬outputs (file.resolve plain.home) ∧
      ∀ job ∈ jobs, ¬outputs (job.source.resolve plain.home))
    (straight : StraightIn session.workspace.tree plain jobs) : Renders file jobs done.tree plain := by
  intro arguments line course pauses parsed once named
  obtain ⟨config, loaded, made, ran, -⟩ := render_eq_ok.mp rendered
  have tree : loaded.tree = session.workspace.tree :=
    (Prod.ext_iff.mp ((leaves_loadJobs file).of_ok made)).2
  have home := beside.grows.home
  rw [← tree] at beside straight home
  have beyond : ∀ one ∈ jobs, ∀ job ∈ jobs,
      one.target.resolve loaded.tree.home ≠ job.source.resolve loaded.tree.home := by
    rw [home]
    exact fun one inside job member same => apart.2 job member (same ▸ targets one inside)
  obtain ⟨watched, given⟩ := beside.gives apart.1 (tree ▸ (loadJobs_eq_ok.mp made).1)
  have grows := beside.grows.trans ((Job.expands_runAll targets).of_ok home ran)
  let fresh : Workspace := { Workspace.ofTree plain with verbose := line.verbose }
  have nothing : fresh.store = .empty := rfl
  obtain ⟨result, last, again, alike⟩ := render_again ⟨_, made⟩ (.refl _) ran beyond nothing
    home.symm grows.fits
    (fun before job after split => by
      have member : job ∈ jobs := split ▸ List.mem_append_right _ (List.mem_cons_self ..)
      obtain ⟨content, there⟩ := Job.sources_of_runAll ran beyond job member
      rw [home]
      exact (straight before job after split).leads beside (home ▸ apart.2 job member) there)
    given rfl rfl
  rw [home] at alike
  exact ⟨_, run_once parsed once (named ▸ again), alike⟩

/-- Whether no target of an attempt is the source of one, or the configuration file. -/
def Apart (file : Path) (begun : Session) (course : Course) (pauses : List (List Step)) : Prop :=
  ∀ one other, Loads file begun course pauses one → Loads file begun course pauses other →
    ∀ job ∈ one,
      job.target.resolve begun.workspace.tree.home ≠ file.resolve begun.workspace.tree.home ∧
        ∀ beside ∈ other, job.target.resolve begun.workspace.tree.home ≠
          beside.source.resolve begun.workspace.tree.home

/-- What an attempt has written that gets to the watching. -/
theorem Tried.renders {begun session : Session} {course remaining : Course}
    {pauses fillings : List (List Step)} {faults : List Fault}
    (tried : Tried file begun course fillings faults session remaining) (within : fillings <+: pauses)
    (tells : course.Tells) (changes : ∀ steps ∈ pauses, ∀ step ∈ steps, step.changesFiles = true)
    (sound : begun.workspace.tree.Sound) (apart : Apart file begun course pauses)
    {alone last : Session} (start : alone.workspace.tree = begun.workspace.tree)
    (ran : Step.runAll fillings.flatten alone = .ok () last) {jobs : List Job} {paths : List Path}
    {done : Workspace} (rendered : render file session.workspace = .ok (jobs, paths) done)
    (straight : StraightIn session.workspace.tree last.workspace.tree jobs) :
    Renders file jobs done.tree last.workspace.tree := by
  let outputs (place : Place) : Prop := ∃ jobs, Loads file begun course pauses jobs ∧
    ∃ job ∈ jobs, place = job.target.resolve begun.workspace.tree.home
  obtain ⟨config, loaded, made, -, -⟩ := render_eq_ok.mp rendered
  have loads : Loads file begun course pauses jobs :=
    ⟨_, _, _, _, _, _, within, tried, made⟩
  obtain ⟨beside, home⟩ : Beside outputs file _ _ ∧ _ := tried.beside tells changes within sound
    (fun jobs loads job member => ⟨jobs, loads, job, member, rfl⟩) start ran
  refine beside.render rendered (fun job member => ⟨jobs, loads, job, member, by rw [home]⟩)
    ⟨?_, fun job member => ?_⟩ straight
  · rw [home]
    rintro ⟨_, before, one, inside, same⟩
    exact (apart _ _ before loads one inside).1 same.symm
  · rw [home]
    rintro ⟨_, before, one, inside, same⟩
    exact (apart _ _ before loads one inside).2 job member same.symm

/-- The session in which a run ends. -/
def finished : EStateM.Result Fault Session Ending → Session
  | .ok _ after => after
  | .error _ after => after

theorem Closed.setbacks {begun : Session} {course : Course} {pauses : List (List Step)}
    {faults : List Fault} {result : EStateM.Result Fault Session Ending}
    (closed : Closed file begun course pauses faults result) (tells : course.Tells)
    (changes : ∀ steps ∈ pauses, ∀ step ∈ steps, step.changesFiles = true)
    (nothing : begun.setbacks = setbacksOf []) : (finished result).setbacks = setbacksOf faults := by
  cases closed with
  | returned within before ended =>
    have kept := before.setbacks tells (fun steps member => changes steps (within.subset member)) nothing
    exact ((leaves_attempted (before.tells tells).leaves file).of_ok ended).trans kept
  | stopped before failed reported =>
    have kept := before.setbacks tells changes nothing
    have quiet := (leaves_attempted (before.tells tells).leaves file).of_ok failed
    exact setbacks_of_report (quiet.trans kept) reported
  | broken within before failed reported broke =>
    have earlier := (List.prefix_append _ _).trans within
    have each := changes _ (within.subset (List.mem_append_right _ (List.mem_singleton_self _)))
    have kept := before.setbacks tells (fun steps member => changes steps (earlier.subset member)) nothing
    have quiet := (leaves_attempted (before.tells tells).leaves file).of_ok failed
    have told := setbacks_of_report (quiet.trans kept) reported
    exact ((Step.leaves_runAll fun step member => Step.leaves_run (each step member)).of_error
      broke).trans told

theorem Tried.last {begun session : Session} {course remaining : Course}
    {fillings : List (List Step)} {faults : List Fault}
    (tried : Tried file begun course fillings faults session remaining) :
    fillings = [] ∧ faults = [] ∧ session = begun ∧ remaining = course ∨
      ∃ others filling former fault earlier left middle paused,
        fillings = others ++ [filling] ∧ faults = former ++ [fault] ∧
          Tried file begun course others former earlier left ∧
            attempted file left earlier = .ok (some fault, remaining) middle ∧
              reportFault fault middle = .ok () paused ∧
                Step.runAll filling paused = .ok () session := by
  cases tried with
  | first => exact .inl ⟨rfl, rfl, rfl, rfl⟩
  | again before failed reported filled =>
    exact .inr ⟨_, _, _, _, _, _, _, _, rfl, rfl, before, failed, reported, filled⟩

/-- What the pauses are filled with decides what the attempts are. -/
theorem Tried.unique {begun session other : Session} {course remaining left : Course}
    {fillings : List (List Step)} {faults others : List Fault}
    (tried : Tried file begun course fillings faults session remaining)
    (also : Tried file begun course fillings others other left) :
    faults = others ∧ session = other ∧ remaining = left := by
  induction tried generalizing others other left with
  | first =>
    obtain ⟨-, rfl, rfl, rfl⟩ | ⟨_, _, _, _, _, _, _, _, absent, -⟩ := also.last
    · exact ⟨rfl, rfl, rfl⟩
    · simp at absent
  | again before failed reported filled ih =>
    obtain ⟨absent, -⟩ | ⟨_, _, _, _, _, _, _, _, same, rfl, former, failing, reporting, filling⟩ :=
      also.last
    · simp at absent
    · obtain ⟨rfl, rfl⟩ := List.append_singleton_inj.mp same
      obtain ⟨rfl, rfl, rfl⟩ := ih former
      cases failed.symm.trans failing
      cases reported.symm.trans reporting
      cases filled.symm.trans filling
      exact ⟨rfl, rfl, rfl⟩

def paired (jobs : List Job) : List (Path × Path) := jobs.map fun job => (job.source, job.target)

/-- Whether no target of some jobs is the source of others, or a file. -/
def beyond (file : Path) (home : Place) (pairs : List (Path × Path)) : Bool :=
  pairs.all fun one => one.2.resolve home ≠ file.resolve home &&
    pairs.all fun other => one.2.resolve home ≠ other.1.resolve home

open String (toList_ofList)

end Serve

end Stencil
