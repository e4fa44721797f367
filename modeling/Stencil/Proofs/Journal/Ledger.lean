import Stencil.Proofs.Builder.Sharing
import Stencil.Proofs.Turn.Reading

/-!
The books of a run: one line after the other as it is written, how deep the code stands there, what
waits to be written and which names have been bound where. Nothing is kept in a tree.
-/

set_option autoImplicit false

namespace Stencil

open Markup (boundNames)

namespace Journal

/-- What waits for the indentation to return. -/
inductive Deferred where
  | indent (depth : Nat)
  | endTag (depth : Nat) (body : Text)
  | block (depth : Nat)
  | call (depth : Nat) (code : Text) (number : Nat)
deriving DecidableEq

namespace Deferred

def depth : Deferred → Nat
  | indent depth => depth
  | endTag depth _ => depth
  | block depth => depth
  | call depth _ _ => depth

/-- Whether the code above it stands one level deeper. -/
def isBlock : Deferred → Bool
  | block _ => true
  | call _ _ _ => true
  | _ => false

def number? : Deferred → Option Nat
  | call _ _ number => some number
  | _ => none

end Deferred

/-- What is written down. -/
inductive Entry where
  | output (output : Output)
  | statement (code : Text)
  | header (code : Text)
  | define (number : Nat)
  | pass
  /-- The place for the names that a function shares. -/
  | declaration (number : Nat)
  | deferred (one : Deferred)
  | released (one : Deferred)
  /-- An end tag that goes into the expression of its line. -/
  | absorbed (one : Deferred) (output : Output)
  /-- The names that go into the declaration of a function. -/
  | shares (number : Nat) (names : List Text)
deriving DecidableEq

/-- An entry, with the level of the code there and the functions around it, the innermost first. -/
structure Event where
  level : Nat
  around : List Nat
  entry : Entry
deriving DecidableEq

/-- The names bound in a function, and what closes it. -/
structure Scope where
  names : List Text
  closing : Option Deferred

structure Ledger where
  log : List Event
  stack : List Deferred
  /-- How many blocks are open. -/
  opened : Nat
  /-- How many functions there are. -/
  functions : Nat
  scopes : List Scope

/-- The names that are there before any code. -/
def givenNames : List Text := Builder.initial.names

namespace Ledger

def initial : Ledger := ⟨[], [], 0, 0, [⟨givenNames, none⟩]⟩

def depth (ledger : Ledger) : Nat := (ledger.stack.head?.map Deferred.depth).getD 0

def around (ledger : Ledger) : List Nat := ledger.stack.filterMap Deferred.number?

def note (ledger : Ledger) (entry : Entry) : Ledger :=
  { ledger with log := ledger.log ++ [⟨1 + ledger.opened, ledger.around, entry⟩] }

def defer (ledger : Ledger) (one : Deferred) : Ledger :=
  { ledger.note (.deferred one) with
    stack := one :: ledger.stack
    opened := if one.isBlock then ledger.opened + 1 else ledger.opened }

def bind (ledger : Ledger) (code : Text) : Ledger :=
  { ledger with
    scopes := match ledger.scopes with
      | [] => []
      | scope :: outer => { scope with names := scope.names ++ boundNames code } :: outer }

/-! ### Closing -/

/-- Closes the innermost scope if it is this that closes it. -/
def leave (ledger : Ledger) (one : Deferred) : Ledger :=
  match ledger.scopes, one.number? with
  | scope :: outer, some number =>
    if scope.closing = some one then
      { ledger with scopes := outer }.note
        (.shares number (Builder.sharedNames scope.names (outer.flatMap Scope.names)))
    else ledger
  | _, _ => ledger

/-- Takes from the stack what is on top of it. -/
def drop (ledger : Ledger) (top : Deferred) (rest : List Deferred) : Ledger :=
  { ledger with
    stack := rest
    opened := if top.isBlock then ledger.opened - 1 else ledger.opened }

def release (ledger : Ledger) (top : Deferred) (rest : List Deferred) : Ledger :=
  ((ledger.leave top).drop top rest).note (.released top)

def flushStack (downTo : Nat) : List Deferred → Ledger → Ledger
  | [], ledger => ledger
  | top :: rest, ledger =>
    if downTo ≤ top.depth then flushStack downTo rest (ledger.release top rest) else ledger

/-- Writes what waits, from the top on, as long as it is at least so deep. -/
def flush (ledger : Ledger) (downTo : Nat) : Ledger := flushStack downTo ledger.stack ledger

/-! ### Turns -/

def shift (ledger : Ledger) : Option Nat → Ledger
  | none => ledger
  | some depth => (ledger.flush depth).defer (.indent depth)

def put (ledger : Ledger) (kind : OutputKind) (body : Text) : Ledger :=
  ledger.note (.output ⟨kind, body, ledger.depth⟩)

def openTag (ledger : Ledger) (text : Builder.TagText) : Ledger :=
  (ledger.put .safe text.start).defer (.endTag ledger.depth text.stop)

/-- A tag that ends on its line: its end tag is taken back at once. -/
def oneLiner (ledger : Ledger) (text : Builder.TagText) (kind : OutputKind) (body : Text) :
    Ledger :=
  let waits := Deferred.endTag ledger.depth text.stop
  ((ledger.defer waits).drop waits ledger.stack).note
    (.absorbed waits ⟨.expression, Builder.fused text kind body, ledger.depth⟩)

def call (ledger : Ledger) (code : Text) : Ledger :=
  let waits := Deferred.call ledger.depth code ledger.functions
  let inside := ((ledger.note (.define ledger.functions)).defer waits).note .pass
  { inside.note (.declaration ledger.functions) with
    functions := ledger.functions + 1
    scopes := ⟨[], some waits⟩ :: ledger.scopes }

def add (ledger : Ledger) : Builder.Content → Ledger
  | .absent => ledger
  | .output kind body => ledger.put kind body
  | .statement code => (ledger.bind code).note (.statement code)
  | .block header =>
    (((ledger.bind header).note (.header header)).defer (.block ledger.depth)).note .pass
  | .call code => ledger.call code

def addTurn (ledger : Ledger) (turn : Builder.Turn) : Ledger :=
  match turn.tag with
  | none => ledger.add turn.content
  | some text =>
    match turn.content, turn.ends with
    | .absent, true => ledger.put .safe (text.start ++ text.stop)
    | .output kind body, true => ledger.oneLiner text kind body
    | content, _ => (ledger.openTag text).add content

def takeTurn (ledger : Ledger) (turn : Builder.Turn) : Ledger :=
  (ledger.shift turn.indent).addTurn turn

def takeTurns (ledger : Ledger) (turns : List Builder.Turn) : Ledger :=
  turns.foldl takeTurn ledger

end Ledger

/-! ### The code in the books -/

/-- The lines of code that an event stands for, given the names that functions share. -/
def Event.lines (shared : Nat → List Text) (event : Event) : List CodeLine :=
  match event.entry with
  | .output output => [⟨event.level, (Line.output output).statementForm⟩]
  | .statement code => [⟨event.level, code⟩]
  | .header code => [⟨event.level, code⟩]
  | .define number => [⟨event.level, Statement.blockHeader number⟩]
  | .pass => [⟨event.level, "pass".toList⟩]
  | .declaration number => Statement.sharing event.level (shared number)
  | .released (.endTag depth body) =>
    [⟨event.level, (Line.output ⟨.safe, body, depth⟩).statementForm⟩]
  | .released (.call depth code number) =>
    [⟨event.level, Builder.callStatement depth code number⟩]
  -- The ends of indentations and of silent blocks are blank.
  | .released (.indent _) => [⟨event.level, []⟩]
  | .released (.block _) => [⟨event.level, []⟩]
  | .absorbed _ output => [⟨event.level, (Line.output output).statementForm⟩]
  | .deferred _ => []
  | .shares _ _ => []

/-- The names that an event binds where it stands. -/
def Event.names (event : Event) : List Text :=
  match event.entry with
  | .statement code => boundNames code
  | .header code => boundNames code
  | _ => []

end Journal

end Stencil
