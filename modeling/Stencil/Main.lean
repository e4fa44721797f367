import Stencil.Session.Serve

/-!
The program. It sees the files below the directory that it is started in, renders, and writes what
has changed. Modifications are found by looking again after a while.
-/

set_option autoImplicit false

namespace Stencil.Terminal

partial def readEntry (place : Place) (entry : IO.FS.DirEntry) : IO (List (Place × Node)) := do
  let here := place ++ [entry.fileName.toList]
  if ← entry.path.isDir then
    let below ← (← entry.path.readDir).toList.mapM (readEntry here)
    return (here, .directory) :: below.flatten
  else return [(here, .file (← IO.FS.readBinFile entry.path))]

def readTree : IO FileTree := do
  let directory ← IO.currentDir
  let start := FileTree.ofHome (Path.ofText directory.toString.toList).names
  let below ← (← directory.readDir).toList.mapM (readEntry start.home)
  return { start with nodes := start.nodes ++ below.flatten }

def textOfPlace (place : Place) : String := String.ofList (Place.display place)

/-- Writes what a run has changed. -/
def writeChanges (before after : FileTree) : IO Unit := do
  for (place, node) in after.nodes do
    if before.node? place ≠ some node then
      match node with
      | .directory => IO.FS.createDirAll (textOfPlace place)
      | .file content => IO.FS.writeBinFile (textOfPlace place) content

def say (content : Text) : IO Unit := do
  let output ← IO.getStdout
  output.putStr (String.ofList content)
  output.flush

def sayRecord (record : Record) : IO Unit := do
  let output ← IO.getStderr
  output.putStrLn (String.ofList record.message)
  match record.cause.bind Fault.message? with
  | some message => output.putStrLn (String.ofList message)
  | none => return ()

/-- Does one thing on the files as they are, and shows and writes what comes of it. -/
def perform {α : Type} (session : Session) (act : Act α) : IO (Except Fault α × Session) := do
  let tree ← readTree
  let workspace := { session.workspace with tree := tree, journal := [], printed := [] }
  match Act.attempt act { session with workspace := workspace } with
  | .ok result after => do
    writeChanges tree after.workspace.tree
    after.workspace.journal.forM sayRecord
    say after.workspace.printed
    return (result, after)
  | .error fault after => return (.error fault, after)

/-- Reacts to modifications for good. -/
partial def watch (session : Session) (watcher : Watcher) : IO Unit := do
  let before := session.workspace.tree
  IO.sleep 1000
  let changes := Watcher.changes before (← readTree)
  let (_, session) ← perform session
    (changes.forM fun path => Act.work (watcher.modified path false))
  watch session watcher

/-- Renders and watches, again after each fault. -/
partial def serve (session : Session) (file : Path) : IO UInt32 := do
  let attempt : Act (Option (Watcher × Nat)) := do
    let (jobs, paths) ← Act.work (Serve.render file)
    Watch.prepare jobs paths
  match ← perform session attempt with
  | (.ok none, _) => return 0
  | (.ok (some (watcher, count)), session) => do
    say (Watch.announcement count ++ ['\n'])
    watch session watcher
    return 0
  | (.error fault, session) => do
    let (_, session) ← perform session (Serve.reportFault fault)
    IO.sleep (UInt32.ofNat (Serve.pause * 1000))
    serve session file

def usage : Text := "usage: stencil [-h] [--once] [-v] config\n".toList

def run (arguments : List String) : IO UInt32 := do
  match CommandLine.parse (arguments.map String.toList) with
  | .error status => do
    say usage
    return UInt32.ofNat status
  | .ok line => do
    let session := Session.ofTree (.ofHome [])
    let session :=
      { session with workspace := { session.workspace with verbose := line.verbose } }
    let file := Path.ofText line.config
    if line.once then
      match ← perform session (Act.work (Serve.render file)) with
      | (.ok _, _) => return 0
      | (.error fault, _) => do
        sayRecord ⟨.error, "Rendering failed".toList, some fault⟩
        return 1
    else serve session file

end Stencil.Terminal

def main (arguments : List String) : IO UInt32 := Stencil.Terminal.run arguments
