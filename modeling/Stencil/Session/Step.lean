import Stencil.Session.Serve

/-!
Sessions as lists of steps. Steps may also happen while files are watched and in pauses.
-/

set_option autoImplicit false

namespace Stencil

abbrev Attributes := List (Text × Datum)

inductive Step where
  | compile (id : Text) (source : Source) (type : ContextType) (name : Text)
  | code (id name : Text) (type : ContextType) (code : Text)
  | render (id : Text) (type : ContextType) (attributes : Attributes)
  | renderSource (source : Source) (type : ContextType) (attributes : Attributes)
  | typeOf (type : ContextType)
  | write (path : Path) (content : ByteArray)
  | makeDirectory (path : Path)
  | remove (path : Path)
  | load (file base : Path)
  | trigger
  | handler (files : List Path)
  | modified (path : Path) (directory : Bool)
  | watch (paths : List Path) (rounds : List (List Step)) (interrupted : Bool)
  | serve (arguments : List Text) (rounds : List (List Step)) (interrupted : Bool)
      (pauses : List (List Step))
deriving Inhabited

/-- What a step gives. -/
inductive Outcome where
  | done
  | compiled (name code : Text)
  | rendered (html : Datum)
  | typeName (name : Text)
  | loaded (config : Config)
  | watched (directories : List Path) (calls : List Call)
  | served (directories : List Path) (calls : List Call) (ending : Ending)

namespace Session

def store (id : Text) (template : Template) : Act Unit :=
  modify fun session =>
    { session with
      templates := (id, template) :: session.templates.filter fun entry => entry.1 != id }

def template (id : Text) : Act Template := do
  match (← get).templates.find? fun entry => entry.1 == id with
  | some (_, template) => return template
  | none => throw (.value .keyMissing)

def makeContext (type : ContextType) (attributes : Attributes) : Work Context := do
  let values ← attributes.mapM fun entry => do
    return (entry.1, ← Work.script (Script.Value.ofDatum entry.2))
  Context.make type values

def writeBytes (path : Path) (content : ByteArray) : Work Unit := do
  Work.ensureDirectories path.parent
  Work.change (FileTree.write · path content)

/-- Does something with an observer of its own, and gives that observer too. -/
def withObserver {α : Type} (act : Act α) : Act (α × Observer) := do
  let before := (← get).observer
  modify fun session => { session with observer := .fresh }
  let result ← Act.attempt act
  let observer := (← get).observer
  modify fun session => { session with observer := before }
  match result with
  | .ok value => return (value, observer)
  | .error fault => throw fault

end Session

namespace Step

open Session

mutual

def run : Step → Act Outcome
  | compile id source type name => do
    let template ← Act.work (Template.compile source type name)
    Session.store id template
    return .compiled template.name template.code
  | code id name type text => do
    Session.store id (← Act.work (Template.ofCode name type text))
    return .done
  | render id type attributes => do
    let template ← Session.template id
    Act.work do
      let context ← makeContext type attributes
      let html ← template.render context
      return .rendered (← Work.script html.current)
  | renderSource source type attributes =>
    Act.work do
      let context ← makeContext type attributes
      let html ← Stencil.renderSource source context
      return .rendered (← Work.script html.current)
  | typeOf type => return .typeName type.name
  | write path content => do
    Act.work (writeBytes path content)
    return .done
  | makeDirectory path => do
    Act.work (Work.ensureDirectories path)
    return .done
  | remove path => do
    Act.work (Work.change (FileTree.remove · path))
    return .done
  | load file base => do
    let config ← Act.work (Config.load file base)
    let jobs ← Act.work (Job.ofConfig config)
    modify fun session => { session with jobs := jobs }
    return .loaded config
  | trigger => do
    Act.work (Job.runAll (← get).jobs)
    return .done
  | handler files => do
    let watcher ← Act.work (Watcher.make files (← get).jobs)
    modify fun session => { session with watcher := some watcher }
    return .done
  | modified path directory => do
    match (← get).watcher with
    | some watcher => do
      Act.work (watcher.modified path directory)
      return .done
    | none => throw (.value .attributeMissing)
  | watch paths rounds interrupted => do
    let ((fault, _), observer) ← withObserver do
      Watch.run (← get).jobs paths ⟨courseOf rounds, interrupted⟩
    match fault with
    | some fault => throw fault
    | none => return .watched observer.directories observer.calls
  | serve arguments rounds interrupted pauses => do
    let (ending, observer) ← withObserver
      (Serve.run arguments ⟨courseOf rounds, interrupted⟩ (courseOf pauses))
    return .served observer.directories observer.calls ending

/-- Runs steps in order, up to the first that fails, for what they change only. -/
def runAll : List Step → Act Unit
  | [] => return ()
  | step :: rest => do
    let _ ← run step
    runAll rest

def courseOf : List (List Step) → List (Act Unit)
  | [] => []
  | steps :: rest => runAll steps :: courseOf rest

end

end Step

/-- What is known of a step once it has been run. -/
structure Report where
  result : Except Fault Outcome
  journal : List Record
  printed : Text

namespace Session

/-- Runs one step; what is reported and printed is kept with its result. -/
def perform (session : Session) (step : Step) : Report × Session :=
  let cleared :=
    { session with workspace := { session.workspace with journal := [], printed := [] } }
  match step.run cleared with
  | .ok outcome after => (⟨.ok outcome, after.workspace.journal, after.workspace.printed⟩, after)
  | .error fault after =>
    (⟨.error fault, after.workspace.journal, after.workspace.printed⟩, after)

/-- Runs steps, each of them also after one that has failed. -/
def performAll (session : Session) : List Step → List Report × Session
  | [] => ([], session)
  | step :: rest =>
    let (report, session) := session.perform step
    let (reports, session) := session.performAll rest
    (report :: reports, session)

end Session

end Stencil
