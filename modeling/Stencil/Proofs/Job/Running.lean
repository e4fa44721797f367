import Stencil.Proofs.Relocation.Rendering

/-!
Running jobs: each reads its source, makes a text of it and delivers that. Run elsewhere, on files
that agree where it matters, the same jobs write the same.
-/

set_option autoImplicit false

namespace Stencil

open FileTree
open Outcome (left)

namespace Work

variable {workspace done : Workspace} {path : Path} {text name : Text}

theorem inspect_eq_ok {α : Type} {question : FileTree → Except FileFault α} {answer : α} :
    inspect question workspace = .ok answer done ↔
      question workspace.tree = .ok answer ∧ done = workspace := by
  rw [inspect]
  simp only [Outcome.bind_apply, get, getThe, MonadStateOf.get, EStateM.get]
  cases question workspace.tree with
  | error fault => simp [Except.mapError, lift, throw, throwThe, MonadExceptOf.throw, EStateM.throw]
  | ok value => simp [Except.mapError, lift, Outcome.pure_apply, eq_comm]

theorem readText_eq_ok :
    readText path workspace = .ok text done ↔ workspace.tree.Tells path text ∧ done = workspace := by
  constructor
  · intro read
    obtain ⟨content, _, inspected, rest⟩ := Outcome.ran_bind read
    obtain ⟨found, rfl⟩ := inspect_eq_ok.mp inspected
    cases decoded : Text.decode? content with
    | some written =>
      simp only [decoded] at rest
      cases rest
      exact ⟨⟨content, written, found, decoded, rfl⟩, rfl⟩
    | none =>
      simp only [decoded] at rest
      cases rest
  · rintro ⟨⟨content, written, read, decoded, rfl⟩, rfl⟩
    rw [readText, Outcome.bind_ok (inspect_eq_ok.mpr ⟨read, rfl⟩)]
    simp only [decoded]
    rfl

theorem readSource_eq_ok :
    (Source.file path).read workspace = .ok (text, name) done ↔
      workspace.tree.Tells path text ∧ name = path.display ∧ done = workspace := by
  constructor
  · intro read
    obtain ⟨isFile, _, inspected, rest⟩ := Outcome.ran_bind read
    obtain ⟨-, rfl⟩ := inspect_eq_ok.mp inspected
    split at rest
    next =>
      obtain ⟨content, _, told, last⟩ := Outcome.ran_bind rest
      obtain ⟨tells, rfl⟩ := readText_eq_ok.mp told
      cases last
      exact ⟨tells, rfl, rfl⟩
    next => cases rest
  · rintro ⟨tells, rfl, rfl⟩
    have read := tells.choose_spec.choose_spec.1
    rw [Source.read, Outcome.bind_ok (inspect_eq_ok.mpr ⟨isFile_of_read read, rfl⟩), if_pos rfl,
      Outcome.bind_ok (readText_eq_ok.mpr ⟨tells, rfl⟩)]
    rfl

/-- Work that, started from a place, only writes outputs and makes directories, however far it
gets. -/
def Expands {α : Type} (home : Place) (outputs : Place → Prop) (work : Work α) : Prop :=
  ∀ workspace, workspace.tree.home = home →
    Grows outputs workspace.tree (left work workspace).tree

section Expands

variable {α β : Type} {home : Place} {outputs : Place → Prop}

theorem Expands.of_ok {work : Work α} (expands : Expands home outputs work) {value : α}
    (here : workspace.tree.home = home) (ran : work workspace = .ok value done) :
    Grows outputs workspace.tree done.tree := by
  have grows := expands workspace here
  rwa [left, ran] at grows

theorem expands_pure (value : α) : Expands home outputs (pure value : Work α) :=
  fun _ _ => .refl ..

theorem Expands.bind {work : Work α} {next : α → Work β} (here : Expands home outputs work)
    (later : ∀ value, Expands home outputs (next value)) :
    Expands home outputs (work >>= next) := by
  intro workspace started
  have first := here workspace started
  rw [left] at first ⊢
  rw [Outcome.bind_apply]
  cases ran : work workspace with
  | ok value middle =>
    simp only [ran] at first
    exact first.trans (later value middle (first.home.trans started))
  | error fault middle => simpa only [ran] using first

/-- Work on values leaves all files as they are. -/
theorem Mirrors.expands {γ : Type} {carry : α → γ} {work : Work α} {twin : Work γ}
    (mirrors : Mirrors (Function.Embedding.refl Nat) carry work twin) :
    Expands home outputs work := by
  intro workspace _
  have met := mirrors workspace workspace workspace.store.copies_refl
  rw [left]
  generalize work workspace = result at met ⊢
  generalize twin workspace = other at met
  cases met with
  | ok copies here there => exact here ▸ .refl ..
  | error copies here there => exact here ▸ .refl ..

theorem expands_throw (fault : Fault) : Expands home outputs (throw fault : Work α) :=
  fun _ _ => .refl ..

theorem expands_lift (outcome : Except Fault α) : Expands home outputs (lift outcome) := by
  cases outcome with
  | ok value => exact expands_pure value
  | error fault => exact expands_throw fault

theorem expands_inspect (question : FileTree → Except FileFault α) :
    Expands home outputs (inspect question) := by
  intro workspace _
  rw [left, inspect]
  simp only [Outcome.bind_apply, get, getThe, MonadStateOf.get, EStateM.get]
  cases question workspace.tree <;> exact .refl ..

theorem expands_report (level : Level) (message : Text) (cause : Option Fault) :
    Expands home outputs (report level message cause) := fun _ _ => .refl ..

theorem expands_readText : Expands home outputs (readText path) := by
  refine (expands_inspect _).bind fun content => ?_
  split
  next => exact expands_pure _
  next => exact expands_throw _

theorem expands_readSource : Expands home outputs (Source.file path).read := by
  refine (expands_inspect _).bind fun isFile => ?_
  split
  next => exact expands_readText.bind fun _ => expands_pure _
  next => exact expands_throw _

theorem expands_ensureDirectories : Expands home outputs (ensureDirectories path) := by
  intro workspace _
  have grows := ensureDirectories_grows outputs path.slashes path.names.reverse workspace.tree
  rw [left, ensureDirectories]
  simp only [Outcome.bind_apply, get, getThe, MonadStateOf.get, EStateM.get, modify, modifyGet,
    MonadStateOf.modifyGet, EStateM.modifyGet]
  generalize FileTree.ensureDirectories path.slashes path.names.reverse workspace.tree = made at grows ⊢
  obtain ⟨tree, fault⟩ := made
  cases fault <;> exact grows

theorem expands_change {content : ByteArray} (output : outputs (path.resolve home)) :
    Expands home outputs (change (FileTree.write · path content)) := by
  intro workspace started
  rw [left]
  cases written : workspace.tree.write path content with
  | ok tree =>
    obtain ⟨place, located, free, rfl⟩ := write_eq_ok.mp written
    obtain ⟨-, -, rfl⟩ := locate_eq_ok.mp located
    rw [change_eq_ok.mpr ⟨_, written, rfl⟩]
    exact grows_put (started.symm ▸ output) free
  | error fault =>
    simp only [change, inspect, Outcome.bind_apply, get, getThe, MonadStateOf.get, EStateM.get,
      written, Except.mapError]
    exact .refl ..

theorem expands_writeText (output : outputs (path.resolve home)) :
    Expands home outputs (writeText path text) := expands_change output

/-- Work whose fault is given instead of stopping it is as far as it got. -/
theorem Expands.attempt {work : Work Unit} (expands : Expands home outputs work) :
    Expands home outputs (attempt work) := by
  intro workspace started
  have grows := expands workspace started
  rw [left] at grows ⊢
  rw [Work.attempt]
  cases ran : work workspace with
  | ok => simpa only [ran] using grows
  | error => simpa only [ran] using grows

end Expands

/-- Work on values leaves all files as they are. -/
theorem Mirrors.tree {α β : Type} {carry : α → β} {work : Work α} {twin : Work β}
    (mirrors : Mirrors (Function.Embedding.refl Nat) carry work twin) {value : α}
    (ran : work workspace = .ok value done) : done.tree = workspace.tree := by
  have met := mirrors workspace workspace workspace.store.copies_refl
  rw [ran] at met
  generalize twin workspace = other at met
  cases met with
  | ok copies here there => exact here

end Work

namespace Job

variable {workspace done : Workspace} {job : Job}

def announcement (job : Job) : Record :=
  ⟨.info, "Rendered ".toList ++ job.source.display ++ " -> ".toList ++ job.target.display, none⟩

theorem run_eq_ok :
    job.run workspace = .ok () done ↔
      ∃ text html middle written, workspace.tree.Tells job.source text ∧
        job.html text workspace = .ok html middle ∧
          write job.target html middle = .ok () written ∧
            done = { written with journal := written.journal ++ [job.announcement] } := by
  constructor
  · intro ran
    obtain ⟨context, first, made, ran⟩ := Outcome.ran_bind ran
    obtain ⟨template, second, loaded, ran⟩ := Outcome.ran_bind ran
    obtain ⟨html, third, rendered, ran⟩ := Outcome.ran_bind ran
    obtain ⟨_, fourth, written, last⟩ := Outcome.ran_bind ran
    rw [Template.compile_eq] at loaded
    obtain ⟨⟨text, name⟩, _, read, compiled⟩ := Outcome.ran_bind loaded
    obtain ⟨tells, rfl, rfl⟩ := Work.readSource_eq_ok.mp read
    rw [(job.mirrors_context).tree made] at tells
    cases last
    refine ⟨text, html, third, fourth, tells, ?_, written, rfl⟩
    rw [Job.html, Outcome.bind_ok made, Outcome.bind_ok compiled, rendered]
  · rintro ⟨text, html, middle, written, tells, made, delivered, rfl⟩
    obtain ⟨context, first, ready, made⟩ := Outcome.ran_bind made
    obtain ⟨template, second, compiled, rendered⟩ := Outcome.ran_bind made
    rw [← (job.mirrors_context).tree ready] at tells
    have read := Work.readSource_eq_ok.mpr ⟨tells, rfl, rfl⟩
    rw [Job.run, Outcome.bind_ok ready, Template.compile_eq, bind_assoc, Outcome.bind_ok read,
      Outcome.bind_ok compiled, Outcome.bind_ok rendered, Outcome.bind_ok delivered]
    rfl

theorem expands_write {home : Place} {outputs : Place → Prop} {target : Path}
    (output : outputs (target.resolve home)) (html : Script.Value) :
    Work.Expands home outputs (write target html) := by
  refine Work.expands_ensureDirectories.bind fun _ => ?_
  refine (Work.expands_writeText output).bind fun _ => ?_
  cases html with
  | text content => exact Work.expands_writeText output
  | _ => exact Work.expands_throw _

theorem expands_run {home : Place} {outputs : Place → Prop}
    (output : outputs (job.target.resolve home)) : Work.Expands home outputs job.run := by
  refine (mirrors_context job).expands.bind fun context => ?_
  rw [Template.compile_eq]
  refine (Work.expands_readSource.bind fun found =>
    (Template.mirrors_ofText _ _ _).expands).bind fun template => ?_
  refine (Template.mirrors_render template context).expands.bind fun html => ?_
  exact (expands_write output html).bind fun _ => Work.expands_report _ _ _

theorem expands_runAll {home : Place} {outputs : Place → Prop} {jobs : List Job}
    (targets : ∀ job ∈ jobs, outputs (job.target.resolve home)) :
    Work.Expands home outputs (runAll jobs) := by
  induction jobs with
  | nil => exact Work.expands_pure ()
  | cons job rest ih =>
    rw [List.forall_mem_cons] at targets
    exact (expands_run targets.1).bind fun _ => ih targets.2

theorem grows_of_runAll {jobs : List Job} (ran : runAll jobs workspace = .ok () done) :
    Grows (fun _ => True) workspace.tree done.tree :=
  (expands_runAll fun _ _ => trivial).of_ok rfl ran

theorem delivered_of_run (ran : job.run workspace = .ok () done) :
    ∃ content, workspace.tree.Open job.target ∧
      Delivered job.target content workspace.tree done.tree := by
  obtain ⟨text, html, middle, written, -, made, delivery, rfl⟩ := run_eq_ok.mp ran
  obtain ⟨content, -, isOpen, delivered, -⟩ := delivered_of_write delivery
  rw [(mirrors_html job text).tree made] at isOpen delivered
  exact ⟨_, isOpen, delivered⟩

/-- A job that has been run can be run elsewhere, where its source says the same and there is room
for its target, if its values are copies of the same ones. They still are afterwards. -/
theorem run_alike {here there : Nat ↪ Nat} {base : Script.Store} {first middle second : Workspace}
    (ran : (job.moved here).run first = .ok () middle) (one : base.Copies here first.store)
    (other : base.Copies there second.store)
    (told : ∀ text, first.tree.Tells job.source text → second.tree.Tells job.source text)
    (isOpen : second.tree.Open job.target) :
    ∃ content done, (job.moved there).run second = .ok () done ∧
      (∃ later : Script.Store, later.Copies here middle.store ∧ later.Copies there done.store) ∧
        Delivered job.target content first.tree middle.tree ∧
          Delivered job.target content second.tree done.tree := by
  obtain ⟨text, html, before, written, tells, made, delivery, rfl⟩ := run_eq_ok.mp ran
  obtain ⟨content, rfl, -, delivered, same⟩ := delivered_of_write delivery
  have met := @mirrors_html here job text { second with store := base } first one
  rw [made] at met
  obtain ⟨value, middle, done, plain, copied, -, kept⟩ := met.of_ok
  have text : value = .text content := by
    cases value <;> first | exact plain | cases plain
  cases text
  have also := @mirrors_html there job text { second with store := base } second other
  rw [done] at also
  obtain ⟨after, again, copies, -, stayed⟩ := also.ok_of
  rw [← stayed] at isOpen
  obtain ⟨last, delivery⟩ := write_ok isOpen content
  obtain ⟨_, alike, -, arrived, ended⟩ := delivered_of_write delivery
  cases alike
  rw [kept] at delivered
  rw [stayed] at arrived
  refine ⟨_, _, run_eq_ok.mpr ⟨_, _, _, _, told _ tells, again, delivery, rfl⟩,
    ⟨middle.store, ?_, ?_⟩, delivered, arrived⟩
  · rw [same]
    exact copied
  · rw [ended]
    exact copies

theorem houses_of_runAll {jobs : List Job} (ran : runAll jobs workspace = .ok () done) :
    ∀ job ∈ jobs, done.tree.Houses job.target := by
  induction jobs generalizing workspace with
  | nil => exact fun _ absent => absurd absent List.not_mem_nil
  | cons job rest ih =>
    obtain ⟨_, middle, here, later⟩ := Outcome.ran_bind ran
    obtain ⟨_, isOpen, delivered⟩ := delivered_of_run here
    rw [List.forall_mem_cons]
    exact ⟨(grows_of_runAll later).houses (delivered.houses isOpen), ih later⟩

/-- The places on the way to the targets of jobs. -/
def Leading (home : Place) (jobs : List Job) (place : Place) : Prop :=
  ∃ job ∈ jobs, place ∈ job.target.route home

theorem leading_cons {home place : Place} {jobs : List Job} (led : Leading home (job :: jobs) place) :
    place ∈ job.target.route home ∨ Leading home jobs place := by
  obtain ⟨one, member, led⟩ := led
  rcases List.mem_cons.mp member with rfl | member
  · exact .inl led
  · exact .inr ⟨one, member, led⟩

/-- Jobs that have been run can be run elsewhere, where their values are copies of the same ones and
the files fit what the jobs have made, and they make the same there. A source may be led to by way of
directories that the jobs before it make. -/
theorem runAll_alike {here there : Nat ↪ Nat} {jobs : List Job} {base : Script.Store}
    {first last second : Workspace} (ran : runAll (jobs.map (Job.moved here)) first = .ok () last)
    (one : base.Copies here first.store) (other : base.Copies there second.store)
    (home : second.tree.home = first.tree.home)
    (apart : ∀ one ∈ jobs, ∀ job ∈ jobs,
      one.target.resolve first.tree.home ≠ job.source.resolve first.tree.home)
    (fits : second.tree.Fits last.tree)
    (leads : ∀ before job after, jobs = before ++ job :: after →
      first.tree.Leads (Leading first.tree.home before) job.source second.tree) :
    ∃ done, runAll (jobs.map (Job.moved there)) second = .ok () done ∧ ∀ place content,
      (∃ job ∈ jobs, place = job.target.resolve first.tree.home) ∨
          first.tree.node? place = some (.file content) ∧
            second.tree.node? place = some (.file content) →
        last.tree.node? place = done.tree.node? place := by
  induction jobs generalizing base first second with
  | nil =>
    cases ran
    refine ⟨second, rfl, fun place content found => ?_⟩
    obtain ⟨_, absent, _⟩ | ⟨one, other⟩ := found
    · cases absent
    · rw [one, other]
  | cons job rest ih =>
    have kept := grows_of_runAll ran
    have houses := houses_of_runAll ran
    rw [List.map_cons] at ran houses
    rw [List.forall_mem_cons] at houses
    obtain ⟨_, middle, once, later⟩ := Outcome.ran_bind ran
    obtain ⟨_, isOpen, -⟩ := delivered_of_run once
    have room := fits.open (home.trans kept.home.symm) houses.1
    have mine := List.mem_cons_self (a := job) (l := rest)
    have nothing (place : Place) : ¬Leading first.tree.home [] place :=
      fun ⟨_, absent, _⟩ => List.not_mem_nil absent
    obtain ⟨content, next, again, ⟨after, copied, copies⟩, arrives, lands⟩ := run_alike once one other
      (fun text => (leads [] job rest rfl).tells nothing home) room
    have started := arrives.home
    obtain ⟨done, ran, agree⟩ := ih later copied copies (by rw [lands.home, started, home])
      (by
        rw [started]
        exact fun one member job inside =>
          apart one (List.mem_cons_of_mem _ member) job (List.mem_cons_of_mem _ inside))
      (fits.delivered (home.trans kept.home.symm) houses.1 lands)
      (fun before other after split => by
        have member : other ∈ rest := split ▸ List.mem_append_right _ (List.mem_cons_self ..)
        rw [started]
        exact (leads (job :: before) other after (by rw [split, List.cons_append])).delivered home
          (fun place => leading_cons) (apart job mine other (List.mem_cons_of_mem _ member))
          arrives lands)
    refine ⟨done, ?_, fun place other found => ?_⟩
    · rw [List.map_cons, runAll, Outcome.bind_ok again]
      exact ran
    · rw [started] at agree
      -- what the first target gets, and a file that is the same before, the other jobs change alike
      have alike (same : place = job.target.resolve first.tree.home ∨
          first.tree.node? place = some (.file other) ∧
            second.tree.node? place = some (.file other)) :
          last.tree.node? place = done.tree.node? place := by
        by_cases target : place = job.target.resolve first.tree.home
        next =>
          refine agree place content (.inr ⟨?_, ?_⟩)
          · rw [arrives.node, if_pos target]
          · rw [lands.node, home, if_pos target]
        next =>
          obtain ⟨one, two⟩ := same.resolve_left target
          have beside : place ∉ job.target.route first.tree.home := fun member =>
            isOpen.unfiled place member other one
          refine agree place other (.inr ⟨?_, ?_⟩)
          · rw [arrives.node, if_neg target, if_neg beside, one]
          · rw [lands.node, home, if_neg target, if_neg beside, two]
      obtain ⟨one, member, target⟩ | same := found
      · rcases List.mem_cons.mp member with rfl | member
        · exact alike (.inl target)
        · exact agree place other (.inl ⟨one, member, target⟩)
      · exact alike (.inr same)

end Job

end Stencil
