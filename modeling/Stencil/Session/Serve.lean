import Stencil.CommandLine
import Stencil.Session.Watch

/-!
The program behind the command line: it renders once, or renders and watches. While it watches it
tries again after each fault.
-/

set_option autoImplicit false

namespace Stencil

/-- How a run of the program ends, if not by a fault. -/
inductive Ending where
  | returned (status : Nat)
  /-- Nothing is left that a pause could be filled with. -/
  | stopped
deriving DecidableEq, Repr

namespace Serve

def loadJobs (file : Path) : Work (Config × List Job) := do
  let config ← Config.load file .here
  return (config, ← Job.ofConfig config)

/-- Loads and renders, and gives the jobs and the files to watch besides their sources. -/
def render (file : Path) : Work (List Job × List Path) := do
  let (config, jobs) ← loadJobs file
  Job.runAll jobs
  return (jobs, config.watched ++ [file])

/-- Loads, renders and watches. -/
def tryOnce (file : Path) (course : Course) : Act (Option Fault × Course) := do
  let (jobs, paths) ← Act.work (render file)
  Watch.run jobs paths course

def pause : Nat := 3

def advice : Text :=
  "Please check your configuration and try again, attempting to reload in 3 seconds...".toList

def reportFault (fault : Fault) : Act Unit := do
  Act.work (Work.report .error "Rendering failed".toList (some fault))
  Act.work (Work.printLine advice)
  Act.call (.sleep pause)

/-- How one attempt ends, and what is left of its course. -/
def attempted (file : Path) (course : Course) : Act (Option Fault × Course) := do
  match ← Act.attempt (tryOnce file course) with
  | .ok (fault, course) => return (fault, course)
  | .error fault => return (some fault, course)

/-- Tries until an attempt ends without a fault. Each pause between attempts is filled with what is
done then. -/
def keepTrying (file : Path) : List (Act Unit) → Course → Act Ending
  | [], course => do
    match ← attempted file course with
    | (none, _) => return .returned 0
    | (some fault, _) => do
      -- The pause itself still begins.
      reportFault fault
      return .stopped
  | filling :: rest, course => do
    match ← attempted file course with
    | (none, _) => return .returned 0
    | (some fault, course) => do
      reportFault fault
      filling
      keepTrying file rest course

/-- Sets whether details are reported, and tells whether they were. -/
def setVerbose (verbose : Bool) : Act Bool := do
  let session ← get
  set { session with workspace := { session.workspace with verbose := verbose } }
  return session.workspace.verbose

/-- Runs the program for a command line. -/
def run (arguments : List Text) (course : Course) (pauses : List (Act Unit)) : Act Ending := do
  match CommandLine.parse arguments with
  | .error status => throw (.badCommandLine status)
  | .ok line => do
    let before ← setVerbose line.verbose
    let file := Path.ofText line.config
    let result ← Act.attempt
      (if line.once then do
        let _ ← Act.work (render file)
        return .returned 0
      else keepTrying file pauses course)
    -- The level of detail belongs to the command line, not to the session.
    let _ ← setVerbose before
    match result with
    | .ok ending => return ending
    | .error fault => throw fault

end Serve

end Stencil
