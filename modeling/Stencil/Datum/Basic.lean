import Stencil.Decimal
import Stencil.Text.Point

/-!
Dates, and moments of a day with a zone or without one.
-/

set_option autoImplicit false

namespace Stencil

structure Date where
  year : Nat
  month : Nat
  day : Nat
deriving DecidableEq, Repr

namespace Date

-- The zero of a sum is that of the core library, also where an import knows another.
attribute [local instance (2000)] Zero.ofOfNat0

def isLeap (year : Nat) : Bool := year % 4 == 0 && (year % 100 != 0 || year % 400 == 0)

def daysIn (year month : Nat) : Nat :=
  if month = 2 then if isLeap year then 29 else 28
  else if month = 4 ∨ month = 6 ∨ month = 9 ∨ month = 11 then 30
  else 31

/-- Whether there is such a day. -/
def isValid (date : Date) : Bool :=
  1 ≤ date.year && 1 ≤ date.month && date.month ≤ 12 && 1 ≤ date.day &&
    date.day ≤ daysIn date.year date.month

/-- Days from the beginning of the first year up to the date. -/
def days (date : Date) : Nat :=
  let before := date.year - 1
  365 * before + before / 4 - before / 100 + before / 400 +
    ((List.range (date.month - 1)).map fun month => daysIn date.year (month + 1)).sum + date.day

theorem days_next (year month day : Nat) :
    days ⟨year, month, day + 1⟩ = days ⟨year, month, day⟩ + 1 := rfl

def compare (left right : Date) : Ordering := Ord.compare left.days right.days

end Date

/-- A time of a day, with the minutes that its zone is ahead, if it has a zone. -/
structure Moment where
  date : Date
  hour : Nat
  minute : Nat
  second : Nat
  microsecond : Nat
  zone : Option Int
deriving DecidableEq, Repr

namespace Moment

/-- The microseconds that a clock with this offset has counted. -/
def counted (moment : Moment) (ahead : Int) : Int :=
  let minutes : Int := (moment.date.days * 24 + moment.hour) * 60 + moment.minute
  ((minutes - ahead) * 60 + moment.second) * 1000000 + moment.microsecond

/-- Compares two moments of which both have a zone or none has. -/
def compare? (left right : Moment) : Option Ordering :=
  match left.zone, right.zone with
  | some here, some there => some (compare (left.counted here) (right.counted there))
  | none, none => some (compare (left.counted 0) (right.counted 0))
  | _, _ => none

theorem compare?_self (moment : Moment) : moment.compare? moment = some .eq := by
  unfold compare?
  split
  next same other =>
    rw [same] at other
    cases other
    simp
  next => simp
  next mixed => cases found : moment.zone <;> simp_all

/-- Whether two moments are the same one, though their zones may differ. -/
def isSame (left right : Moment) : Bool := left.compare? right == some .eq

end Moment

end Stencil

/-!
Data: what literals, configuration files and contexts hold. Mappings keep the order in which their
keys came.
-/

namespace Stencil

inductive Datum where
  | none
  | bool (value : Bool)
  | integer (value : Int)
  | real (value : Float)
  | complex (real imaginary : Float)
  | ellipsis
  | text (value : Text)
  /-- Code points that are no text, since there are surrogates among them. -/
  | points (value : Points)
  | bytes (value : List UInt8)
  | list (items : List Datum)
  | tuple (items : List Datum)
  | set (items : List Datum)
  | dict (entries : List (Datum × Datum))
  /-- A list or a dictionary that this is a part of. -/
  | around (isList : Bool)
  | date (value : Date)
  | moment (value : Moment)
deriving Inhabited

namespace Decimal

-- Powers are those of the core library, also where an import knows others.
attribute [local instance (2000)] instPowNat

/-- Compares an integer with a floating point number exactly; there is no order with what is not a
number. -/
def compareInteger (left : Int) (right : Float) : Option Ordering :=
  match Reading.ofFloat right with
  | .notANumber => none
  | .infinite negative => some (if negative then .gt else .lt)
  | .zero _ => some (compare left 0)
  | .finite negative binary =>
    let signed : Int := if negative then -binary.mantissa else binary.mantissa
    if binary.exponent < 0 then some (compare (left * 2 ^ binary.exponent.natAbs) signed)
    else some (compare left (signed * 2 ^ binary.exponent.natAbs))

end Decimal

namespace Datum

def ofPoints (value : Points) : Datum :=
  match value.text? with
  | some found => text found
  | Option.none => points value

theorem ofPoints_ofText (value : Text) : ofPoints (.ofText value) = text value := by
  simp [ofPoints, Points.text?_ofText]

/-- The integer that a truth value or an integer counts as. -/
def integer? : Datum → Option Int
  | bool value => some (if value then 1 else 0)
  | integer value => some value
  | _ => Option.none

/-- Whether a datum counts as true: it is neither nothing, zero nor empty. -/
def truthy : Datum → Bool
  | none => false
  | bool value => value
  | integer value => value != 0
  | real value => value != 0.0
  | complex a b => a != 0.0 || b != 0.0
  | text value => !value.isEmpty
  | points value => !value.isEmpty
  | bytes value => !value.isEmpty
  | list items => !items.isEmpty
  | tuple items => !items.isEmpty
  | set items => !items.isEmpty
  | dict entries => !entries.isEmpty
  | _ => true

def sameNumber (left right : Datum) : Bool :=
  match left.integer?, right.integer?, left, right with
  | some a, some b, _, _ => a == b
  | some a, _, _, real b => Decimal.compareInteger a b == some .eq
  | _, some b, real a, _ => Decimal.compareInteger b a == some .eq
  | _, _, real a, real b => a == b
  | _, _, complex a b, complex c d => a == c && b == d
  | _, _, real a, complex b c => a == b && c == 0.0
  | _, _, complex a b, real c => a == c && b == 0.0
  | _, _, _, _ => false

mutual

/-- Whether two keys are the same key. Numbers are compared by value across their kinds; what is not
a number is the same as itself. -/
def sameKey : Datum → Datum → Bool
  | none, none => true
  | ellipsis, ellipsis => true
  | text a, text b => a == b
  | points a, points b => a == b
  | bytes a, bytes b => a == b
  | tuple a, tuple b => sameKeys a b
  | date a, date b => a == b
  | moment a, moment b => a.isSame b
  | real a, real b => a == b || a.isNaN && b.isNaN
  | a, b => sameNumber a b

def sameKeys : List Datum → List Datum → Bool
  | [], [] => true
  | a :: left, b :: right => sameKey a b && sameKeys left right
  | _, _ => false

end

mutual

/-- Whether a datum may be a key or a member of a set. -/
def isHashable : Datum → Bool
  | list _ => false
  | set _ => false
  | dict _ => false
  | around _ => false
  | tuple items => areHashable items
  | _ => true

def areHashable : List Datum → Bool
  | [] => true
  | item :: rest => isHashable item && areHashable rest

end

/-- Values by key. Each key is there once, and keys keep the order in which they came. -/
abbrev Keyed (α : Type) := List (Datum × α)

abbrev Entries := Keyed Datum

namespace Keyed

variable {α β : Type}

/-- Binds a key. A key that is there keeps its place. -/
def insert (entries : Keyed α) (key : Datum) (value : α) : Keyed α :=
  if entries.any fun entry => entry.1.sameKey key then
    entries.map fun entry => if entry.1.sameKey key then (entry.1, value) else entry
  else entries ++ [(key, value)]

def find? (entries : Keyed α) (key : Datum) : Option α :=
  (List.find? (fun entry => entry.1.sameKey key) entries).map (·.2)

/-- Binds every key of the second mapping in the first. -/
def update (entries additions : Keyed α) : Keyed α :=
  additions.foldl (fun found entry => found.insert entry.1 entry.2) entries

def mapValues (change : α → β) (entries : Keyed α) : Keyed β :=
  entries.map fun entry => (entry.1, change entry.2)

theorem length_insert (entries : Keyed α) (key : Datum) (value : α) :
    entries.length ≤ (entries.insert key value).length := by
  unfold insert
  split <;> simp

theorem mapValues_insert (change : α → β) (entries : Keyed α) (key : Datum) (value : α) :
    (entries.insert key value).mapValues change =
      (entries.mapValues change).insert key (change value) := by
  have same : (entries.mapValues change).any (fun entry => entry.1.sameKey key) =
      entries.any fun entry => entry.1.sameKey key := by
    simp [mapValues, List.any_map, Function.comp_def]
  simp only [insert, same]
  split
  next =>
    simp only [mapValues, List.map_map]
    congr 1
    funext entry
    by_cases found : entry.1.sameKey key <;> simp [found]
  next => simp [mapValues]

theorem mapValues_update (change : α → β) (entries additions : Keyed α) :
    (entries.update additions).mapValues change =
      (entries.mapValues change).update (additions.mapValues change) := by
  induction additions generalizing entries with
  | nil => rfl
  | cons entry rest ih =>
    simp only [update, List.foldl_cons] at ih ⊢
    rw [ih, mapValues_insert]
    rfl

end Keyed

end Datum

end Stencil
