import Stencil.CompileError
import Stencil.FileTree
import Stencil.Script.Check
import Stencil.Script.Value

/-!
Everything that can go wrong in a run, and what is said about it.
-/

set_option autoImplicit false

namespace Stencil

/-- What is wrong with a configuration that can be read. -/
inductive ConfigProblem where
  | notMapping
  | withoutWrite
  | writeNotList
  | watchNotList
  | contextNotMapping
  | incompleteEntry
deriving DecidableEq, Repr

def ConfigProblem.message : ConfigProblem → Text
  | notMapping => "top level must be a mapping.".toList
  | withoutWrite => "missing 'write' section.".toList
  | writeNotList => "'write' must be a list of src/dst entries.".toList
  | watchNotList => "'watch' must be a list of globs.".toList
  | contextNotMapping => "'context' must be a mapping.".toList
  | incompleteEntry => "every 'write' entry needs 'src' and 'dst'.".toList

inductive Fault where
  /-- The source of a template does not compile. -/
  | source (error : CompileError)
  /-- Code is no code at all. -/
  | code (fault : Script.CodeFault)
  /-- Running code failed, or a value is not what it has to be. -/
  | value (failure : Script.Failure)
  | templateMissing (path : Path)
  | contextMismatch (template wanted given : Text)
  | configMalformed
  | configRejected (path : Path) (problem : ConfigProblem)
  | file (fault : FileFault)
  /-- A file holds bytes that encode no text. -/
  | notText
  | badCommandLine (status : Nat)
deriving DecidableEq, Repr

/-- What is said about a fault that has a text of its own. -/
def Fault.message? : Fault → Option Text
  | source error => error.message?
  | templateMissing path => some ("Template not found: ".toList ++ path.display)
  | contextMismatch template wanted given =>
      some ("Template ".toList ++ template ++ " expects a ".toList ++ wanted ++
        " context, got ".toList ++ given ++ ['.'])
  | configRejected path problem => some (path.display ++ ": ".toList ++ problem.message)
  | _ => none

end Stencil

/-!
What a run works on: files, the values that code has made, and what has been reported. A run that
fails keeps what it has done so far.
-/

namespace Stencil

inductive Level where
  | debug | info | warning | error
deriving DecidableEq, Repr

/-- A line of the journal, with the fault that it reports, if it reports one. -/
structure Record where
  level : Level
  message : Text
  cause : Option Fault
deriving DecidableEq, Repr

structure Workspace where
  tree : FileTree
  store : Script.Store
  /-- Whether details are reported. -/
  verbose : Bool
  journal : List Record
  printed : Text

def Workspace.ofTree (tree : FileTree) : Workspace := ⟨tree, .empty, false, [], []⟩

abbrev Work := EStateM Fault Workspace

namespace Work

variable {α : Type}

def report (level : Level) (message : Text) (cause : Option Fault) : Work Unit :=
  modify fun workspace =>
    { workspace with journal := workspace.journal ++ [⟨level, message, cause⟩] }

def info (message : Text) : Work Unit := report .info message none

def warn (message : Text) : Work Unit := report .warning message none

/-- Reports a detail, if details are wanted. -/
def detail (message : Text) : Work Unit := do
  if (← get).verbose then report .debug message none

def print (text : Text) : Work Unit :=
  modify fun workspace => { workspace with printed := workspace.printed ++ text }

def printLine (text : Text) : Work Unit := print (text ++ ['\n'])

def lift (result : Except Fault α) : Work α :=
  match result with
  | .ok value => pure value
  | .error fault => throw fault

/-- Runs code on the values of the workspace. -/
def script (run : Script.Run α) : Work α := fun workspace =>
  match run workspace.store with
  | .ok value store => .ok value { workspace with store := store }
  | .error failure store => .error (.value failure) { workspace with store := store }

/-- Asks something about the files. -/
def inspect (question : FileTree → Except FileFault α) : Work α := do
  lift ((question (← get).tree).mapError Fault.file)

/-- Changes the files. -/
def change (operation : FileTree → Except FileFault FileTree) : Work Unit := do
  let tree ← inspect operation
  modify fun workspace => { workspace with tree := tree }

def readText (path : Path) : Work Text := do
  match Text.decode? (← inspect (FileTree.read · path)) with
  | some text => return Text.unifyEndings text
  | none => throw .notText

def writeText (path : Path) (text : Text) : Work Unit :=
  change (FileTree.write · path (Text.encode text))

/-- Makes a directory with all that it is in. -/
def ensureDirectories (path : Path) : Work Unit := do
  let (tree, fault) := FileTree.ensureDirectories path.slashes path.names.reverse (← get).tree
  modify fun workspace => { workspace with tree := tree }
  match fault with
  | some fault => throw (.file fault)
  | none => return ()

/-- Does something and gives the fault that stopped it. What was done by then stays. -/
def attempt (work : Work Unit) : Work (Option Fault) := fun workspace =>
  match work workspace with
  | .ok _ workspace => .ok none workspace
  | .error fault workspace => .ok (some fault) workspace

end Work

end Stencil
