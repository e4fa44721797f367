import Stencil.Job

/-!
The state of a session, in which templates are compiled, configurations loaded and files watched.
-/

set_option autoImplicit false

namespace Stencil

/-- What is done to an observer, and pauses. -/
inductive Call where
  | start
  | joinShortly
  | join
  | stop
  | sleep (seconds : Nat)
deriving DecidableEq, Repr

/-- A directory that is observed, and whether what is deeper in it is observed too. -/
structure Schedule where
  directory : Path
  recursive : Bool
deriving DecidableEq, Repr

/-- Something that observes directories while it is alive, and what has been done to it. -/
structure Observer where
  alive : Bool
  schedules : List Schedule
  calls : List Call
deriving DecidableEq, Repr

namespace Observer

def fresh : Observer := ⟨false, [], []⟩

def directories (observer : Observer) : List Path := observer.schedules.map (·.directory)

end Observer

structure Session where
  workspace : Workspace
  templates : List (Text × Template)
  jobs : List Job
  watcher : Option Watcher
  observer : Observer

abbrev Act := EStateM Fault Session

namespace Session

variable {α : Type}

def ofTree (tree : FileTree) : Session := ⟨.ofTree tree, [], [], none, .fresh⟩

end Session

namespace Act

variable {α : Type}

/-- Works on the workspace of a session. -/
def work (work : Work α) : Act α := fun session =>
  match work session.workspace with
  | .ok value workspace => .ok value { session with workspace := workspace }
  | .error fault workspace => .error fault { session with workspace := workspace }

/-- Does something and gives what it gives, or the fault that stopped it. -/
def attempt (act : Act α) : Act (Except Fault α) := fun session =>
  match act session with
  | .ok value session => .ok (.ok value) session
  | .error fault session => .ok (.error fault) session

/-- Does something to the observer. -/
def call (call : Call) : Act Unit :=
  modify fun session =>
    let observer := session.observer
    let alive := match call with
      | .start => true
      | .stop => false
      | _ => observer.alive
    { session with observer := { observer with alive := alive, calls := observer.calls ++ [call] } }

/-- The observer ends by itself. -/
def endObserver : Act Unit :=
  modify fun session => { session with observer := { session.observer with alive := false } }

/-- Has a directory observed; what happens in it is for a watcher. -/
def schedule (watcher : Watcher) (directory : Path) (recursive : Bool) : Act Unit :=
  modify fun session =>
    { session with
      watcher := some watcher
      observer :=
        { session.observer with
          schedules := session.observer.schedules ++ [⟨directory, recursive⟩] } }

end Act

end Stencil
