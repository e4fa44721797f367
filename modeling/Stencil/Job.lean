import Stencil.Config
import Stencil.Template

/-!
Rendering what a configuration says to render.
-/

set_option autoImplicit false

namespace Stencil

/-- A template to render to a file. The values of its context may be those of other jobs too. -/
structure Job where
  source : Path
  target : Path
  attributes : Datum.Keyed Script.Value

namespace Job

def makeValues (entries : Datum.Entries) : Work (Datum.Keyed Script.Value) :=
  entries.mapM fun entry => do
    return (entry.1, ← Work.script (Script.Value.ofDatum entry.2))

/-- The jobs of a configuration. What its entries share they share as values. -/
def ofConfig (config : Config) : Work (List Job) := do
  let shared ← makeValues config.shared
  config.entries.mapM fun entry => do
    return ⟨entry.source, entry.target, shared.update (← makeValues entry.own)⟩

/-- A job's context. The names of attributes must be texts. -/
def context (job : Job) : Work Context := do
  let attributes ← job.attributes.mapM fun entry =>
    match entry.1 with
    | .text name => pure (name, entry.2)
    | _ => throw (.value .wrongType)
  Context.make .namespaceType attributes

/-- Writes what a template made. The file is emptied even if that turns out to be no text. -/
def write (target : Path) (html : Script.Value) : Work Unit := do
  Work.ensureDirectories target.parent
  Work.writeText target []
  match html with
  | .text content => Work.writeText target content
  | _ => throw (.value .wrongType)

def run (job : Job) : Work Unit := do
  let context ← job.context
  let template ← Template.compile (.file job.source) context.type []
  let html ← template.render context
  write job.target html
  Work.info ("Rendered ".toList ++ job.source.display ++ " -> ".toList ++ job.target.display)

/-- Runs jobs in order, up to the first that fails. -/
def runAll : List Job → Work Unit
  | [] => return ()
  | job :: rest => do
    job.run
    runAll rest

end Job

end Stencil

/-!
Rendering again when a file that matters is modified.
-/

namespace Stencil

/-- The places whose modification matters, and the jobs to run then. -/
structure Watcher where
  places : List Place
  jobs : List Job

/-- The place that a path means. -/
def Work.resolve (path : Path) : Work Place := do
  if path.hasNul then throw (.file .nul)
  return path.resolve (← get).tree.home

def Place.display (place : Place) : Text := (Path.mk 1 place).display

namespace Watcher

def make (files : List Path) (jobs : List Job) : Work Watcher := do
  let places ← files.mapM Work.resolve
  Work.info "Handler initialized. Monitoring for changes...".toList
  return ⟨places, jobs⟩

/-- Runs jobs and reports a fault instead of failing. -/
def rerun (jobs : List Job) : Work Unit := do
  match ← Work.attempt (Job.runAll jobs) with
  | some fault => Work.report .error "Re-render failed".toList (some fault)
  | none => return ()

/-- Reacts to a modification. Those of directories and of other files do not matter. -/
def modified (watcher : Watcher) (path : Path) (directory : Bool) : Work Unit := do
  if !directory then
    let place ← Work.resolve path
    if watcher.places.contains place then
      Work.info ("Detected modification in: ".toList ++ Place.display place)
      rerun watcher.jobs

/-- The files that matter: the sources of the jobs and the given paths. -/
def files (jobs : List Job) (paths : List Path) : List Path :=
  (jobs.map (·.source) ++ paths).eraseDups

/-- The files whose content is not what it was. -/
def changes (before after : FileTree) : List Path :=
  after.nodes.filterMap fun entry =>
    match entry.2 with
    | .file _ => if before.node? entry.1 = some entry.2 then none else some ⟨1, entry.1⟩
    | .directory => none

/-- The directories of files, in order, each of them once. -/
def directories (files : List Path) : List Path := Config.sorted (files.map Path.parent)

end Watcher

end Stencil
