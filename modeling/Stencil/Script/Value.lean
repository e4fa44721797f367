import Stencil.Datum.Show
import Stencil.Script.Scope

/-!
Values of running code, and the store that holds what can change.
-/

set_option autoImplicit false

namespace Stencil.Script

-- Powers are those of the core library, also where an import knows others.
attribute [local instance (2000)] instPowNat

inductive Builtin where
  | range | length | integer | string | escape
deriving DecidableEq, Repr

/-- The methods of the page that a template renders: what they do with the block they get. -/
inductive PageMethod where
  | wrap | twice | skip | around
deriving DecidableEq, Repr

inductive Method where
  | append | upper | join
deriving DecidableEq, Repr

inductive Value where
  | none
  | bool (value : Bool)
  | integer (value : Int)
  | real (value : Float)
  | text (value : Text)
  | tuple (items : List Value)
  | range (start stop step : Int)
  | list (place : Nat)
  | dict (place : Nat)
  | function (place : Nat)
  | builtin (builtin : Builtin)
  | method (receiver : Value) (method : Method)
  /-- An object that a template renders. -/
  | page (place : Nat)
  | pageMethod (method : PageMethod)
  /-- Calls the block it gets and gives the value. -/
  | giver (value : Value)
  /-- A datum that code can only pass on and show. -/
  | datum (value : Datum)
deriving Inhabited

/-- Why running code stops. -/
inductive Failure where
  | nameUnbound
  | localUnbound
  | attributeMissing
  | wrongType
  | wrongValue
  | keyMissing
  | indexOutOfRange
  | divisionByZero
  | overflow
  | assertion
  | tooDeep
  /-- There is no room for a value. -/
  | tooLarge
  /-- A dictionary has got or lost keys while it is looped over. -/
  | changed
  | unsupported
deriving DecidableEq, Repr

/-- The names that are local to a running function, where they are kept, and the names that it
declares global. -/
structure Frame where
  place : Nat
  locals : List Text
  globals : List Text
deriving DecidableEq, Repr

structure Function where
  parameters : Parameters Expr
  /-- The values of the defaults, by parameter. -/
  defaults : List (Text × Value)
  body : List Stmt
  scope : Scope
  /-- The functions around, from the innermost. -/
  outer : List Frame
  /-- Where the global bindings of its module are. -/
  globals : Nat

/-- What kind of object a template renders, and so what it offers besides its attributes. -/
inductive PageKind where
  | page | plain | namespace | bare
deriving DecidableEq, Repr

structure Page where
  kind : PageKind
  attributes : List (Text × Value)

/-- What a place of the store holds. -/
inductive Cell where
  | list (items : List Value)
  | dict (entries : List (Value × Value))
  | bindings (bound : List (Text × Value))
  | function (function : Function)
  | page (page : Page)

/-- All that code can change, and what it can refer to from several sides. -/
structure Store where
  cells : Array Cell

def Store.empty : Store := ⟨#[]⟩

/-- Running code: it changes the store and gives a value or fails. -/
abbrev Run := EStateM Failure Store

namespace Run

variable {α : Type}

def fail (failure : Failure) : Run α := throw failure

def cell (place : Nat) : Run Cell := do
  match (← get).cells[place]? with
  | some found => return found
  | none => fail .unsupported

def allocate (cell : Cell) : Run Nat := do
  let store ← get
  set { store with cells := store.cells.push cell }
  return store.cells.size

def replace (place : Nat) (cell : Cell) : Run Unit :=
  modify fun store => { store with cells := store.cells.setIfInBounds place cell }

def listItems (place : Nat) : Run (List Value) := do
  match ← cell place with
  | .list items => return items
  | _ => fail .unsupported

def dictEntries (place : Nat) : Run (List (Value × Value)) := do
  match ← cell place with
  | .dict entries => return entries
  | _ => fail .unsupported

def bindings (place : Nat) : Run (List (Text × Value)) := do
  match ← cell place with
  | .bindings bound => return bound
  | _ => fail .unsupported

def functionAt (place : Nat) : Run Function := do
  match ← cell place with
  | .function found => return found
  | _ => fail .unsupported

def pageAt (place : Nat) : Run Page := do
  match ← cell place with
  | .page found => return found
  | _ => fail .unsupported

def newList (items : List Value) : Run Value := do
  return .list (← allocate (.list items))

end Run

/-- No sequence is longer. -/
def maximalLength : Nat := 2 ^ (63 : Nat) - 1

/-- Binds a name, in its place if it is bound already. -/
def bindName (name : Text) (value : Value) : List (Text × Value) → List (Text × Value)
  | [] => [(name, value)]
  | (other, held) :: rest =>
    if other = name then (name, value) :: rest
    else (other, held) :: bindName name value rest

def findName? (name : Text) (bound : List (Text × Value)) : Option Value :=
  (bound.find? fun entry => entry.1 == name).map (·.2)

theorem findName?_bindName (name : Text) (value : Value) (bound : List (Text × Value)) :
    findName? name (bindName name value bound) = some value := by
  induction bound with
  | nil => simp [bindName, findName?]
  | cons entry rest ih =>
    rw [bindName]
    split
    next => simp [findName?]
    next different => simpa [findName?, different] using ih

end Stencil.Script
