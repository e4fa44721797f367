import Stencil.Proofs.Job.Order
import Stencil.Proofs.Serve.Watching

/-!
Watching and rendering once. What is rendered again after a modification is what a run that renders
once makes of the same files, as long as the configuration and the values of contexts are as they
were loaded.
-/

set_option autoImplicit false

namespace Stencil

open FileTree

namespace Job

theorem moved_refl (job : Job) : job.moved (Function.Embedding.refl Nat) = job := by
  have same : Script.Value.moved (Function.Embedding.refl Nat) = id := funext Script.Value.moved_id
  rw [moved, same, Datum.Keyed.mapValues]
  simp

theorem ofConfig_congr {one other : Config} (entries : one.entries = other.entries)
    (shared : one.shared = other.shared) : ofConfig one = ofConfig other := by
  rw [ofConfig, ofConfig, entries, shared]

end Job

namespace Watcher

variable {watcher : Watcher} {path : Path} {workspace after : Workspace}

/-- Whether the last thing that was reported is no error. -/
def Quiet (workspace : Workspace) : Prop :=
  ∀ record, workspace.journal.getLast? = some record → record.level ≠ .error

/-- Where a modification matters and no error is reported for it, the jobs have been run. -/
theorem ran_of_modified (ran : watcher.modified path false workspace = .ok () after)
    (watched : path.resolve workspace.tree.home ∈ watcher.places) (quiet : Quiet after) :
    ∃ begun : Workspace, begun.tree = workspace.tree ∧ begun.store = workspace.store ∧
      Job.runAll watcher.jobs begun = .ok () after := by
  obtain ⟨place, _, resolved, rest⟩ := Outcome.ran_bind ran
  obtain ⟨-, rfl, rfl⟩ := Watch.resolve_eq_ok.mp resolved
  rw [if_pos (List.contains_iff_mem.mpr watched)] at rest
  obtain ⟨_, noted, told, rerun⟩ := Outcome.ran_bind rest
  cases told
  obtain ⟨fault, last, attempted, ended⟩ := Outcome.ran_bind rerun
  rw [Work.attempt] at attempted
  split at attempted
  next done =>
    cases attempted
    cases ended
    refine ⟨_, ?_, ?_, done⟩ <;> rfl
  next =>
    cases attempted
    cases ended
    exact absurd rfl (quiet _ List.getLast?_concat)

end Watcher

namespace Serve

variable {file : Path} {config : Config} {jobs : List Job} {loaded : Workspace}
variable {session after : Session} {path : Path} {outcome : Outcome}

theorem Watches.ran (watches : Watches file config jobs loaded session)
    (ran : (Step.modified path false).run session = .ok outcome after)
    (watched : ∃ one ∈ Watcher.files jobs (config.watched ++ [file]),
      path.resolve session.workspace.tree.home = one.resolve session.workspace.tree.home)
    (quiet : Watcher.Quiet after.workspace) :
    ∃ begun : Workspace, begun.tree = session.workspace.tree ∧
      begun.store = session.workspace.store ∧
        Job.runAll jobs begun = .ok () after.workspace := by
  obtain ⟨-, watcher, home⟩ := watches
  rw [Step.run] at ran
  obtain ⟨_, _, got, rest⟩ := Outcome.ran_bind ran
  cases got
  rw [watcher] at rest
  obtain ⟨_, _, worked, last⟩ := Outcome.ran_bind rest
  obtain ⟨workspace, modified, rfl⟩ := Act.work_eq_ok.mp worked
  cases last
  refine Watcher.ran_of_modified modified ?_ quiet
  obtain ⟨one, member, same⟩ := watched
  rw [home] at same
  rw [home, same]
  exact List.mem_map_of_mem member

/-- What jobs have written, a run that renders once writes on files that fit, if it finds the same
configuration and the same sources there. -/
theorem render_again {current : Config} {begun done fresh : Workspace}
    (made : ∃ start, loadJobs file start = .ok (config, jobs) loaded)
    (values : loaded.store.Keeps begun.store) (ran : Job.runAll jobs begun = .ok () done)
    (apart : ∀ one ∈ jobs, ∀ job ∈ jobs,
      one.target.resolve begun.tree.home ≠ job.source.resolve begun.tree.home)
    (nothing : fresh.store = .empty) (home : fresh.tree.home = begun.tree.home)
    (fits : fresh.tree.Fits done.tree)
    (leads : ∀ before job after, jobs = before ++ job :: after →
      begun.tree.Leads (Job.Leading begun.tree.home before) job.source fresh.tree)
    (given : Config.Gives fresh.tree file .here current) (entries : current.entries = config.entries)
    (shared : current.shared = config.shared) :
    ∃ result last, render file fresh = .ok result last ∧ ∀ job ∈ jobs, ∃ content,
      done.tree.node? (job.target.resolve begun.tree.home) = some (.file content) ∧
        last.tree.node? (job.target.resolve begun.tree.home) = some (.file content) := by
  obtain ⟨start, made⟩ := made
  have made := (loadJobs_eq_ok.mp made).2
  rw [← Job.ofConfig_congr entries shared] at made
  obtain ⟨plain, bare, move, also, kept, closed, below, carries, same⟩ :=
    Job.ofConfig_carries made nothing
  obtain ⟨here, copies, agree⟩ := closed.copies (carries.kept values)
  have same : plain.map (Job.moved here) = jobs := by
    rw [← same]
    exact List.map_congr_left fun job member => below job member here move agree
  subst same
  simp only [List.forall_mem_map] at apart
  rw [← kept] at home fits leads
  obtain ⟨last, rendered, alike⟩ :=
    Job.runAll_alike ran copies bare.store.copies_refl home apart fits fun before job after split => by
      obtain ⟨way, file⟩ := leads (before.map (Job.moved here)) (job.moved here)
        (after.map (Job.moved here)) (by rw [split, List.map_append, List.map_cons])
      refine ⟨fun place member led => (way place member led).imp_right ?_, file⟩
      rintro ⟨_, inside, led⟩
      obtain ⟨one, member, rfl⟩ := List.mem_map.mp inside
      exact ⟨one, member, led⟩
  rw [List.map_congr_left fun job _ => job.moved_refl, List.map_id'] at rendered
  refine ⟨_, last, render_eq_ok.mpr ⟨current, bare, loadJobs_eq_ok.mpr ⟨given, also⟩, rendered, rfl⟩,
    ?_⟩
  rw [List.forall_mem_map]
  intro job member
  obtain ⟨content, file⟩ := (Job.houses_of_runAll ran _ (List.mem_map_of_mem member)).file
  rw [(Job.grows_of_runAll ran).home] at file
  exact ⟨content, file, (alike _ content (.inl ⟨job, member, rfl⟩)).symm.trans file⟩

end Serve

namespace Serve

open String (toList_ofList)

end Serve

end Stencil
