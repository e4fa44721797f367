import Stencil.Text.Basic

/-!
Command lines: one configuration, and flags that may stand anywhere and may be shortened. Behind
two hyphens nothing is a flag.
-/

set_option autoImplicit false

namespace Stencil

structure CommandLine where
  config : Text
  once : Bool
  verbose : Bool
deriving DecidableEq, Repr

namespace CommandLine

inductive Flag where
  | help | once | verbose
deriving DecidableEq, Repr

/-- What an argument is. -/
inductive Argument where
  /-- A flag by its name, and whether a value is written behind it. -/
  | long (flag : Flag) (valued : Bool)
  /-- A flag by its letter, and what is written behind it, if anything is. -/
  | short (flag : Flag) (more : Option Text)
  | unknown
  | operand (text : Text)
  | divider
deriving DecidableEq, Repr

/-- The statuses that a program ends with when its command line stops it. -/
def helpStatus : Nat := 0

def errorStatus : Nat := 2

def dividerText : Text := ['-', '-']

def longNames : List (Text × Flag) :=
  [("--help".toList, .help), ("--once".toList, .once), ("--verbose".toList, .verbose)]

def letter? (c : Char) : Option Flag :=
  if c = 'h' then some .help else if c = 'v' then some .verbose else none

/-- A number below zero, which is no flag. Its digits may be those of any script, and a line feed
may end it. -/
def isNegative (text : Text) : Bool :=
  let text := text.map Text.asciiDigit
  match if text.getLast? = some '\n' then text.dropLast else text with
  | '-' :: rest =>
    let whole := rest.takeWhile Char.isDigit
    match rest.drop whole.length with
    | [] => !whole.isEmpty
    | '.' :: behind => !behind.isEmpty && behind.all Char.isDigit
    | _ => false
  | _ => false

/-- An argument that begins like a flag and is none. -/
def otherArgument (text : Text) : Argument :=
  if isNegative text || text.contains ' ' then .operand text else .unknown

/-- An argument that begins with two hyphens; a shortened name must mean one flag only. -/
def longArgument (text : Text) : Except Nat Argument :=
  let name := text.takeWhile (· != '=')
  let valued := name.length != text.length
  match longNames.find? fun entry => entry.1 == name with
  | some (_, flag) => .ok (.long flag valued)
  | none =>
    match longNames.filter fun entry => name.isPrefixOf entry.1 with
    | [] => .ok (otherArgument text)
    | [(_, flag)] => .ok (.long flag valued)
    | _ => .error errorStatus

def shortArgument (text : Text) : Argument :=
  match text with
  | _ :: c :: more =>
    match letter? c, more with
    | none, _ => otherArgument text
    | some flag, [] => .short flag none
    | some flag, '=' :: value => .short flag (some value)
    | some flag, more => .short flag (some more)
  | _ => .operand text

def argument (text : Text) : Except Nat Argument :=
  match text with
  | ['-', '-'] => .ok .divider
  | '-' :: '-' :: _ => longArgument text
  | '-' :: _ => .ok (shortArgument text)
  | _ => .ok (.operand text)

/-- The arguments up to the divider; those behind it are all operands. -/
def arguments : List Text → Except Nat (List Argument)
  | [] => .ok []
  | text :: rest => do
    let first ← argument text
    if first = .divider then return first :: rest.map .operand
    else return first :: (← arguments rest)

/-- What has been read so far. -/
structure Progress where
  config : Option Text
  once : Bool
  verbose : Bool
  /-- Whether there was anything that has no place. -/
  spare : Bool
  /-- Whether the configuration was read just before. -/
  adjacent : Bool
deriving DecidableEq, Repr

def Progress.apply (progress : Progress) (flag : Flag) : Except Nat Progress :=
  match flag with
  | .help => .error helpStatus
  | .once => .ok { progress with once := true }
  | .verbose => .ok { progress with verbose := true }

/-- Letters that are all flags. -/
def letters : Text → Except Nat (List Flag)
  | [] => .ok []
  | c :: rest =>
    match letter? c with
    | some flag => do return flag :: (← letters rest)
    | none => .error errorStatus

def Progress.step (progress : Progress) (argument : Argument) : Except Nat Progress := do
  let next := { progress with adjacent := false }
  match argument with
  | .long flag valued => if valued then .error errorStatus else next.apply flag
  | .short flag none => next.apply flag
  | .short flag (some more) =>
    if more.isEmpty then .error errorStatus
    else (flag :: (← letters more)).foldlM Progress.apply next
  | .unknown => return { next with spare := true }
  | .operand text =>
    match next.config with
    | none => return { next with config := some text, adjacent := true }
    | some _ => return { next with spare := true }
  | .divider =>
    if progress.config.isSome && !progress.adjacent then return { next with spare := true }
    else return next

/-- Reads a command line, or gives the status to end with. -/
def parse (texts : List Text) : Except Nat CommandLine := do
  let progress ← (← arguments texts).foldlM Progress.step ⟨none, false, false, false, false⟩
  match progress.config with
  | some config =>
    if progress.spare then .error errorStatus
    else return ⟨config, progress.once, progress.verbose⟩
  | none => .error errorStatus

end CommandLine

end Stencil
