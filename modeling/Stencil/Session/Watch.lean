import Stencil.Session.Basic

/-!
Watching files until the watching ends by itself, is interrupted or fails. However it ends, the
observer is stopped if it is alive, and then joined.
-/

set_option autoImplicit false

namespace Stencil

/-- What happens while an observer is watched: what is done in each round, and whether there is an
interruption when no round is left. -/
structure Course where
  rounds : List (Act Unit)
  interrupted : Bool

/-- How the watching ends. -/
inductive Leaving where
  | ended
  | interrupted
  | failed (fault : Fault)

namespace Watch

/-- Joins the observer, for a short time each, as long as it is alive. -/
def follow (interrupted : Bool) : List (Act Unit) → Act (Leaving × Course)
  | [] => do
    Act.call .joinShortly
    -- An interruption happens once; a later watch ends by itself.
    if interrupted then return (.interrupted, ⟨[], false⟩)
    else
      Act.endObserver
      return (.ended, ⟨[], false⟩)
  | round :: rest => do
    Act.call .joinShortly
    match ← Act.attempt round with
    | .ok _ => follow interrupted rest
    | .error fault => return (.failed fault, ⟨rest, interrupted⟩)

/-- Stops the observer if it is alive, and waits for it. -/
def close : Act Unit := do
  if (← get).observer.alive then Act.call .stop
  Act.call .join
  Act.work (Work.printLine "Watcher stopped completely.".toList)

def announcement (count : Nat) : Text :=
  "\nWatching for file changes in ".toList ++ Text.decimal count ++ " director".toList ++
    (if count = 1 then "y".toList else "ies".toList) ++ ". Press Ctrl+C to stop.".toList

def absence (directory : Path) : Text :=
  "Directory '".toList ++ directory.display ++ "' does not exist. Cannot watch.".toList

/-- Starts the observer and sees it through. The fault that ended it is given at last. -/
def observe (count : Nat) (course : Course) : Act (Option Fault × Course) := do
  Act.call .start
  Act.work (Work.printLine (announcement count))
  let (leaving, course) ← follow course.interrupted course.rounds
  match leaving with
  | .ended => do
    close
    return (none, course)
  | .interrupted => do
    Act.work (Work.printLine "\nStopping watcher (Ctrl+C pressed)...".toList)
    close
    return (none, course)
  | .failed fault => do
    close
    return (some fault, course)

/-- Has those directories observed that are there, and tells how many they are. -/
def scheduleAll (watcher : Watcher) (directories : List Path) : Act Nat := do
  -- Those that are there come first, then those that are not, in the order of their texts.
  let present ← directories.filterM fun directory =>
    Act.work (Work.inspect (FileTree.isDirectory · directory))
  present.forM fun directory => do
    Act.schedule watcher directory false
    Act.work (Work.info ("Scheduled watcher for directory: ".toList ++ directory.display))
  let absent := directories.filter fun directory => !present.contains directory
  ((absent.map absence).mergeSort Text.precedes).forM fun message => Act.work (Work.warn message)
  return present.length

/-- Prepares to watch the sources of jobs and other files. Gives what reacts to modifications and the
number of directories that are observed, if there are any. -/
def prepare (jobs : List Job) (paths : List Path) : Act (Option (Watcher × Nat)) := do
  let files := Watcher.files jobs paths
  let directories := Watcher.directories files
  if directories.isEmpty then
    Act.work (Work.report .error "No valid directories provided to watch.".toList none)
    return none
  else
    let watcher ← Act.work (Watcher.make files jobs)
    let count ← scheduleAll watcher directories
    if count = 0 then
      Act.work
        (Work.report .error "No watchers were successfully scheduled. Exiting.".toList none)
      return none
    else return some (watcher, count)

/-- Watches the sources of jobs and other files. A fault that ends the watching is given with what
is left of the course. -/
def run (jobs : List Job) (paths : List Path) (course : Course) :
    Act (Option Fault × Course) := do
  match ← prepare jobs paths with
  | none => return (none, course)
  | some (_, count) => observe count course

end Watch

end Stencil
