import Stencil.Proofs.Files.Route
import Stencil.Proofs.Serve.Shutdown

/-!
What a watch covers. Directories are observed as they are written, and events are told apart by the
places that their paths mean; the two fit together for each file that matters.
-/

set_option autoImplicit false

namespace Stencil

open Outcome

/-! ### Files that matter, and their directories -/

/-- Whether a file is the source of a job, or a path to watch. -/
def Matters (jobs : List Job) (paths : List Path) (file : Path) : Prop :=
  (∃ job ∈ jobs, job.source = file) ∨ file ∈ paths

namespace Watcher

variable {jobs : List Job} {paths : List Path} {file directory : Path}

end Watcher

namespace FileTree

end FileTree

namespace Watch

variable {jobs : List Job} {paths directories : List Path} {watcher : Watcher}
variable {session : Session}

/-- The directories that are there, of some. -/
def present (tree : FileTree) (directories : List Path) : List Path :=
  directories.filter fun directory => (tree.isDirectory directory).toOption == some true

theorem inspect_apply {α : Type} {question : FileTree → Except FileFault α} {answer : α}
    (found : question session.workspace.tree = .ok answer) :
    Act.work (Work.inspect question) session = .ok answer session :=
  Act.work_eq_ok.mpr ⟨_, Work.inspect_eq_ok.mpr ⟨found, rfl⟩, rfl⟩

/-- What reacts to modifications of the files that matter. -/
def handler (jobs : List Job) (paths : List Path) (home : Place) : Watcher :=
  ⟨(Watcher.files jobs paths).map fun file => file.resolve home, jobs⟩

/-- Whether each file that matters has a path that can be read, in a directory whose path is not too
long. -/
def Readable (jobs : List Job) (paths : List Path) (tree : FileTree) : Prop :=
  ∀ file, Matters jobs paths file →
    file.hasNul = false ∧ tree.locate file.parent ≠ .error .nameTooLong

end Watch

end Stencil
