import Stencil.Proofs.Job.Running
import Stencil.Proofs.Relocation.Loading

/-!
Jobs in any order. Jobs that leave the values of their contexts as these were loaded write what they
write wherever they stand among the others, and write it again when they are run again.
-/

set_option autoImplicit false

namespace Stencil

open FileTree

namespace FileTree

variable {tree middle later : FileTree}

theorem Grows.read {outputs : Place → Prop} {path : Path} {content : ByteArray}
    (grows : Grows outputs tree later) (inside : ¬outputs (path.resolve tree.home))
    (read : tree.read path = .ok content) : later.read path = .ok content := by
  obtain ⟨place, located, file⟩ := read_eq_ok.mp read
  obtain ⟨-, -, rfl⟩ := locate_eq_ok.mp located
  exact read_eq_ok.mpr ⟨_, grows.locate located, (grows.kept _ content inside).mp file⟩

/-- What has become of a tree once the targets of jobs have their contents. -/
structure Laid (order : List Job) (content : Job → ByteArray) (tree later : FileTree) : Prop where
  home : later.home = tree.home
  file : ∀ job ∈ order,
    later.node? (job.target.resolve tree.home) = some (.file (content job))
  way : ∀ job ∈ order, ∀ place ∈ job.target.route tree.home,
    later.node? place = some .directory
  rest : ∀ place, (∀ job ∈ order, place ≠ job.target.resolve tree.home ∧
    place ∉ job.target.route tree.home) → later.node? place = tree.node? place

variable {order other : List Job} {content : Job → ByteArray} {whole : FileTree}

/-- A place that is a target is on the way to no target, where all of them are. -/
theorem Houses.apart {one two : Path} (target : whole.Houses one) (led : whole.Houses two) :
    one.resolve whole.home ∉ two.route whole.home := by
  intro member
  obtain ⟨content, file⟩ := target.file
  rw [led.led _ member] at file
  cases file

theorem Laid.cons {job : Job} (delivered : Delivered job.target (content job) tree middle)
    (laid : Laid order content middle later)
    (houses : ∀ one ∈ job :: order, whole.Houses one.target) (home : tree.home = whole.home)
    (single : ∀ one ∈ order, job.target.resolve tree.home ≠ one.target.resolve tree.home) :
    Laid (job :: order) content tree later := by
  have started := delivered.home
  obtain ⟨last, file, way, rest⟩ := laid
  rw [started] at last file way rest
  have mine := houses job (List.mem_cons_self ..)
  rw [List.forall_mem_cons] at houses
  refine ⟨last, ?_, ?_, fun place outside => ?_⟩
  · rw [List.forall_mem_cons]
    refine ⟨?_, file⟩
    rw [rest _ fun one member => ⟨single one member, ?_⟩, delivered.node, if_pos rfl]
    rw [home]
    exact mine.apart (houses.2 one member)
  · rw [List.forall_mem_cons]
    refine ⟨fun place member => ?_, way⟩
    by_cases led : ∃ one ∈ order, place ∈ one.target.route tree.home
    next =>
      obtain ⟨one, inside, led⟩ := led
      exact way one inside place led
    next =>
      have beside : ∀ one ∈ order, place ≠ one.target.resolve tree.home := by
        rintro one inside rfl
        rw [home] at member
        exact (houses.2 one inside).apart mine member
      have apart : place ≠ job.target.resolve tree.home := by
        rintro rfl
        rw [home] at member
        exact mine.apart mine member
      rw [rest place fun one inside => ⟨beside one inside, fun member => led ⟨one, inside, member⟩⟩,
        delivered.node, if_neg apart, if_pos member]
  · rw [List.forall_mem_cons] at outside
    rw [rest place outside.2, delivered.node, if_neg outside.1.1, if_neg outside.1.2]

/-- The order does not matter for what becomes of the files. -/
theorem Laid.alike (laid : Laid order content tree middle) (again : Laid other content tree later)
    (same : ∀ job, job ∈ order ↔ job ∈ other) (place : Place) :
    middle.node? place = later.node? place := by
  by_cases target : ∃ job ∈ order, place = job.target.resolve tree.home
  next =>
    obtain ⟨job, member, rfl⟩ := target
    rw [laid.file job member, again.file job ((same job).mp member)]
  next =>
    by_cases way : ∃ job ∈ order, place ∈ job.target.route tree.home
    next =>
      obtain ⟨job, member, led⟩ := way
      rw [laid.way job member place led, again.way job ((same job).mp member) place led]
    next =>
      have outside (job : Job) (member : job ∈ order) : place ≠ job.target.resolve tree.home ∧
          place ∉ job.target.route tree.home :=
        ⟨fun here => target ⟨job, member, here⟩, fun led => way ⟨job, member, led⟩⟩
      rw [laid.rest place outside,
        again.rest place fun job member => outside job ((same job).mpr member)]

/-- Files that have their contents do not change when they get them again. -/
theorem Laid.again (laid : Laid order content tree middle) (again : Laid order content middle later)
    (place : Place) : later.node? place = middle.node? place := by
  have still : Laid order content middle middle := by
    refine ⟨rfl, ?_, ?_, fun _ _ => rfl⟩
    · rw [laid.home]
      exact laid.file
    · rw [laid.home]
      exact laid.way
  exact again.alike still (fun _ => Iff.rfl) place

end FileTree

namespace Job

/-- Whether no target of jobs is the target or the source of another one. -/
def Apart (home : Place) (jobs : List Job) : Prop :=
  (jobs.map fun job => job.target.resolve home).Nodup ∧
    ∀ one ∈ jobs, ∀ job ∈ jobs, one.target.resolve home ≠ job.source.resolve home

instance (home : Place) (jobs : List Job) : Decidable (Apart home jobs) :=
  inferInstanceAs (Decidable (_ ∧ _))

/-- Files of which jobs may be run, with the files that there are in the end. -/
structure Ground (jobs : List Job) (begun whole : FileTree) : Prop where
  home : whole.home = begun.home
  houses : ∀ job ∈ jobs, whole.Houses job.target
  reads : ∀ job ∈ jobs, ∃ content, begun.read job.source = .ok content
  apart : Apart begun.home jobs

/-- Whether nothing has come in the way of jobs yet: the values of their contexts are as they were
loaded, their sources are as they were, and there is room for their targets. -/
structure Ready (jobs : List Job) (base : Script.Store) (move : Nat ↪ Nat) (begun whole : FileTree)
    (workspace : Workspace) : Prop where
  home : workspace.tree.home = begun.home
  values : base.Carries move workspace.store
  reads : ∀ job ∈ jobs, workspace.tree.read job.source = begun.read job.source
  fits : workspace.tree.Fits whole

variable {jobs order : List Job} {base : Script.Store} {move : Nat ↪ Nat} {begun whole : FileTree}
variable {job : Job} {first middle second done : Workspace} {content : Job → ByteArray}

/-- Whether a job has only values that are carried along. -/
def Of (base : Script.Store) (move : Nat ↪ Nat) (job : Job) : Prop :=
  ∃ plain : Job, plain.Below base.cells.size ∧ plain.moved move = job

theorem Ready.delivered {content : ByteArray} (ready : Ready jobs base move begun whole first)
    (ground : Ground jobs begun whole) (member : job ∈ jobs)
    (delivered : Delivered job.target content first.tree done.tree)
    (values : base.Carries move done.store) : Ready jobs base move begun whole done := by
  have home := ready.home.trans ground.home.symm
  have houses := ground.houses job member
  have grows : Grows (fun place => place = job.target.resolve begun.home) first.tree done.tree :=
    delivered.grows (ready.fits.open home houses) (by rw [ready.home])
  refine ⟨grows.home.trans ready.home, values, fun one inside => ?_,
    ready.fits.delivered home houses delivered⟩
  obtain ⟨found, read⟩ := ground.reads one inside
  have before := (ready.reads one inside).trans read
  rw [grows.read _ before, read]
  rw [ready.home]
  exact fun same => ground.apart.2 job member one inside same.symm

end Job

/-! ### Some configurations -/

namespace Job

variable {jobs : List Job}

open String (toList_ofList)

end Job

end Stencil
