import Stencil.Proofs.Job.Running

/-!
What a run of jobs leaves when one of them fails. A job makes its text before it touches any file, so
what is left are the files of the jobs before it, and at most directories on the way to its target.
-/

set_option autoImplicit false

namespace Stencil

open Outcome

namespace FileTree

/-- A tree in which directories have come to some places of a list that had nothing. -/
def Paved (among : List Place) (tree paved : FileTree) : Prop :=
  ∃ places, (∀ place ∈ places, place ∈ among ∧ tree.node? place = none) ∧ Made places tree paved

variable {among wider : List Place} {tree middle paved : FileTree}

theorem Paved.mono (found : Paved among tree paved) (more : ∀ place ∈ among, place ∈ wider) :
    Paved wider tree paved := by
  obtain ⟨places, absent, making⟩ := found
  exact ⟨places, fun place member => ⟨more place (absent place member).1, (absent place member).2⟩,
    making⟩

theorem Paved.trans (first : Paved among tree middle) (second : Paved among middle paved) :
    Paved among tree paved := by
  obtain ⟨places, absent, making⟩ := first
  obtain ⟨others, missing, remaking⟩ := second
  refine ⟨places ++ others, fun place member => ?_, making.along remaking⟩
  rcases List.mem_append.mp member with before | after
  · exact absent place before
  · obtain ⟨inside, nothing⟩ := missing place after
    rw [making.node] at nothing
    split at nothing
    next => cases nothing
    next => exact ⟨inside, nothing⟩

theorem Paved.grows (found : Paved among tree paved) (outputs : Place → Prop) :
    Grows outputs tree paved := by
  obtain ⟨places, absent, making⟩ := found
  refine making.grows (fun place member content file => ?_) outputs
  rw [(absent place member).2] at file
  cases file

end FileTree

namespace Work

open FileTree (Paved)

theorem Mirrors.leaves {α β : Type} {carry : α → β} {work : Work α} {twin : Work β}
    (mirrors : Mirrors (Function.Embedding.refl Nat) carry work twin) :
    Leaves Workspace.tree work := by
  intro workspace
  have met := mirrors workspace workspace workspace.store.copies_refl
  rw [left]
  generalize work workspace = result at met ⊢
  generalize twin workspace = other at met
  cases met with
  | ok copies here there => exact here
  | error copies here there => exact here

end Work

namespace Job

open FileTree

/-- What a job writes: its template, rendered with its context. -/
def make (job : Job) : Work Script.Value := do
  let context ← job.context
  let template ← Template.compile (.file job.source) context.type []
  template.render context

/-- Makes the directories that a target needs, and opens it. It is empty then. -/
def opening (target : Path) : Work Unit := do
  Work.ensureDirectories target.parent
  Work.writeText target []

/-- Writes to a target that is open. -/
def filling (target : Path) (html : Script.Value) : Work Unit :=
  match html with
  | .text content => Work.writeText target content
  | _ => throw (.value .wrongType)

theorem leaves_make (job : Job) : Leaves Workspace.tree job.make := by
  have read : Leaves Workspace.tree (Source.file job.source).read := by
    have inspected {α : Type} (question : FileTree → Except FileFault α) :
        Leaves Workspace.tree (Work.inspect question) := by
      refine leaves_get.bind fun workspace => ?_
      cases question workspace.tree with
      | ok value => exact leaves_pure value
      | error fault => exact leaves_throw _
    refine (inspected _).bind fun isFile => ?_
    split
    next =>
      refine Leaves.bind ((inspected _).bind fun content => ?_) fun _ => leaves_pure _
      split
      next => exact leaves_pure _
      next => exact leaves_throw _
    next => exact leaves_throw _
  refine (mirrors_context job).leaves.bind fun context => ?_
  rw [Template.compile_eq]
  refine (read.bind fun _ => (Template.mirrors_ofText _ _ _).leaves).bind fun template => ?_
  exact (Template.mirrors_render template context).leaves

/-- Whether a run of jobs can write to each target that it gets open. -/
def Fills (jobs : List Job) (start : Workspace) : Prop :=
  ∀ before job after middle html made opened, jobs = before ++ job :: after →
    runAll before start = .ok () middle → job.make middle = .ok html made →
      opening job.target made = .ok () opened →
        ∃ filled, filling job.target html opened = .ok () filled

variable {jobs before : List Job} {job : Job} {start middle last : Workspace} {fault : Fault}

theorem runAll_append (before more : List Job) :
    runAll (before ++ more) = (do runAll before; runAll more) := by
  induction before with
  | nil => rfl
  | cons job rest ih =>
    rw [List.cons_append, runAll, runAll, ih]
    simp only [bind_assoc]

/-- A run that fails has failed at one of its jobs, after those before it. -/
theorem stopped_of_runAll (failed : runAll jobs start = .error fault last) :
    ∃ before job after middle, jobs = before ++ job :: after ∧
      runAll before start = .ok () middle ∧ job.run middle = .error fault last := by
  induction jobs generalizing start with
  | nil => cases failed
  | cons job rest ih =>
    rw [runAll, bind_apply] at failed
    cases ran : job.run start with
    | error reason stopped =>
      rw [ran] at failed
      cases failed
      exact ⟨[], job, rest, start, rfl, rfl, ran⟩
    | ok value next =>
      rw [ran] at failed
      obtain ⟨before, other, after, middle, rfl, done, stopped⟩ := ih failed
      refine ⟨job :: before, other, after, middle, rfl, ?_, stopped⟩
      rw [runAll, bind_ok ran]
      exact done

end Job

end Stencil
