import Stencil.Proofs.Journal.Following
import Stencil.Proofs.Text.Unique

/-!
The names that a function shares, read off the books: those that silent code binds in it and that
silent code around it has bound before its header. What waits to be written is in the books as well:
it comes down once and the last first, where what it closes was opened.
-/

set_option autoImplicit false

namespace Stencil

open Markup (boundNames)

namespace Journal

/-- The names bound by silent code that the function of a number is the innermost one around. -/
def recordedIn (log : List Event) (number : Nat) : List Text :=
  (log.filter fun event => event.around.head? = some number).flatMap Event.names

/-- The names that are given, and those bound by silent code in no function or, innermost, in one
of the given functions. -/
def knownAt (before : List Event) (around : List Nat) : List Text :=
  givenNames ++
    (before.filter fun event => event.around.head?.all around.contains).flatMap Event.names

/-- Whether an event is the header of a function. -/
def Event.defines (number : Nat) (event : Event) : Bool := event.defined? == some number

/-- The names that are known at the header of a function. -/
def knownTo (log : List Event) (number : Nat) : List Text :=
  knownAt (log.takeWhile fun event => !event.defines number)
    (((log.find? (Event.defines number)).map Event.around).getD [])

/-- The names that the function of a number shares with the code around it. -/
def sharedOf (log : List Event) (number : Nat) : List Text :=
  Builder.sharedNames (recordedIn log number) (knownTo log number)

/-! ### What belongs to a piece of the log -/

variable {place : Place} {own : List Text} {first last : Nat} {before after events : List Event}
  {statements : List Statement}

theorem Nested.numbers (nested : Nested place own first events statements last) {event : Event}
    (member : event ∈ events) {number : Nat} (defined : event.defined? = some number) :
    first ≤ number ∧ number < last := by
  have listed : number ∈ events.filterMap Event.defined? :=
    List.mem_filterMap.mpr ⟨event, member, defined⟩
  have low := nested.le
  rw [nested.defined, List.mem_range'_1] at listed
  omega

/-- The innermost function around an event is one of the piece, or it stands at the place itself. -/
theorem Place.Holds.owner {event : Event} (holds : place.Holds first last event) :
    event.around = place.around ∨
      ∃ number, event.around.head? = some number ∧ first ≤ number ∧ number < last := by
  obtain ⟨_, extra, same, bounds⟩ := holds
  cases extra with
  | nil => exact .inl same
  | cons number more => exact .inr ⟨number, by rw [same]; rfl, bounds number (List.mem_cons_self ..)⟩

/-- Nothing in a piece belongs to a function that is numbered elsewhere and not around it. -/
theorem Place.Holds.head?_ne {event : Event} (holds : place.Holds first last event) {number : Nat}
    (outside : number < first ∨ last ≤ number) (absent : number ∉ place.around) :
    event.around.head? ≠ some number := by
  intro same
  rcases holds.owner with here | ⟨owner, found, low, high⟩
  · rw [here] at same
    exact absent (List.mem_of_mem_head? same)
  · cases found.symm.trans same
    omega

/-- Of a piece only what stands at the place itself is known behind it. -/
theorem filter_known (older : ∀ number ∈ place.around, number < first)
    (holds : ∀ event ∈ events, place.Holds first last event) :
    (events.filter fun event => event.around.head?.all place.around.contains) =
      events.filter fun event => event.around = place.around := by
  refine List.filter_congr fun event member => ?_
  rcases (holds event member).owner with here | ⟨number, found, low, high⟩
  · rw [here]
    cases around : place.around <;> simp
  · have absent : number ∉ place.around := by
      intro inside
      have early := older number inside
      omega
    have apart : event.around ≠ place.around := by
      intro same
      rw [same] at found
      exact absent (List.mem_of_mem_head? found)
    simp [found, absent, apart]

theorem knownAt_append (left right : List Event) (around : List Nat) :
    knownAt (left ++ right) around = knownAt left around ++
      (right.filter fun event => event.around.head?.all around.contains).flatMap Event.names := by
  simp [knownAt, List.filter_append]

/-- An event at the place that has to do with no function. -/
structure Place.Plain (place : Place) (first : Nat) (event : Event) : Prop where
  holds : place.Holds first first event
  undefined : event.defined? = none
  unshared : ∀ number names, event.entry ≠ .shares number names

def Entry.isPlain : Entry → Bool
  | define _ => false
  | shares _ _ => false
  | _ => true

theorem Place.plain_event (place : Place) (first : Nat) {entry : Entry}
    (plain : entry.isPlain = true) : place.Plain first (place.event entry) := by
  refine ⟨place.holds_event .., ?_, ?_⟩
  · cases entry with
    | define number => cases plain
    | _ => rfl
  · rintro number names rfl
    cases plain

theorem Place.forall_plain (place : Place) (first : Nat) (entries : List Entry)
    (plain : entries.all Entry.isPlain = true) :
    ∀ event ∈ entries.map place.event, place.Plain first event := by
  intro event member
  obtain ⟨entry, inside, rfl⟩ := List.mem_map.mp member
  exact place.plain_event first (List.all_eq_true.mp plain entry inside)

theorem Place.Plain.of_deeper {event : Event} (plain : place.deeper.Plain first event) :
    place.Plain first event :=
  ⟨Place.holds_of_deeper plain.holds, plain.undefined, plain.unshared⟩

/-! ### What stands around it -/

/-- A piece of the log with what is before it and behind it: nothing there belongs to functions
that are numbered in the piece, and what is known is bound before it. -/
structure Context (place : Place) (own : List Text) (first last : Nat) (before after : List Event) :
    Prop where
  apart : ∀ event ∈ before ++ after, ∀ number, first ≤ number → number < last →
    event.around.head? ≠ some number ∧ event.defined? ≠ some number
  older : ∀ number ∈ place.around, number < first
  known : ∀ name, name ∈ own ++ place.outer ↔ name ∈ knownAt before place.around

namespace Context

theorem absent (context : Context place own first last before after) {number : Nat}
    (late : first ≤ number) : number ∉ place.around := by
  intro inside
  have early := context.older number inside
  omega

/-- What is known at a place behind more of it. -/
theorem known_append (context : Context place own first last before after) {middle : Nat}
    {piece : List Event} (holds : ∀ event ∈ piece, place.Holds first middle event) (name : Text) :
    name ∈ own ++ place.ownNames piece ++ place.outer ↔
      name ∈ knownAt (before ++ piece) place.around := by
  rw [knownAt_append, filter_known context.older holds]
  have same := context.known name
  simp only [List.mem_append, Place.ownNames] at same ⊢
  rw [← same]
  constructor
  · rintro ((own | new) | outer)
    · exact .inl (.inl own)
    · exact .inr new
    · exact .inl (.inr outer)
  · rintro ((own | outer) | new)
    · exact .inl (.inl own)
    · exact .inr outer
    · exact .inl (.inr new)

variable {middle : Nat} {one other : List Event} {left right : List Statement}

theorem early (context : Context place own first last before after)
    (next : Nested place (own ++ place.ownNames one) middle other right last) :
    Context place own first middle before (other ++ after) where
  apart := by
    intro event member number low high
    rw [← List.append_assoc, List.mem_append, List.mem_append] at member
    have later := next.le
    rcases member with (early | inside) | late
    · exact context.apart event (List.mem_append_left _ early) number low (by omega)
    · refine ⟨(next.holds event inside).head?_ne (.inl high) (context.absent low), ?_⟩
      intro defined
      have bounds := next.numbers inside defined
      omega
    · exact context.apart event (List.mem_append_right _ late) number low (by omega)
  older := context.older
  known := context.known

theorem late (context : Context place own first last before after)
    (nested : Nested place own first one left middle) :
    Context place (own ++ place.ownNames one) middle last (before ++ one) after where
  apart := by
    intro event member number low high
    rw [List.mem_append, List.mem_append] at member
    have earlier := nested.le
    have start : first ≤ number := by omega
    rcases member with (early | inside) | late
    · exact context.apart event (List.mem_append_left _ early) number start high
    · refine ⟨(nested.holds event inside).head?_ne (.inr low) (context.absent start), ?_⟩
      intro defined
      have bounds := nested.numbers inside defined
      omega
    · exact context.apart event (List.mem_append_right _ late) number start high
  older := fun number member => by
    have early := context.older number member
    have later := nested.le
    omega
  known := context.known_append nested.holds

/-- Inside a block, given what opens it and what closes it. -/
theorem wrap (context : Context place own first last before after) {opening closing : List Event}
    (opens : ∀ event ∈ opening, place.Plain first event)
    (closes : ∀ event ∈ closing, place.Plain first event) :
    Context place (own ++ place.ownNames opening) first last (before ++ opening)
      (closing ++ after) where
  apart := by
    intro event member number low high
    have bare {event : Event} (plain : place.Plain first event) :
        event.around.head? ≠ some number ∧ event.defined? ≠ some number :=
      ⟨plain.holds.head?_ne (.inr low) (context.absent low), by simp [plain.undefined]⟩
    simp only [List.mem_append] at member
    rcases member with (early | opened) | closed | late
    · exact context.apart event (List.mem_append_left _ early) number low high
    · exact bare (opens event opened)
    · exact bare (closes event closed)
    · exact context.apart event (List.mem_append_right _ late) number low high
  older := context.older
  known := context.known_append fun event member => (opens event member).holds

theorem deeper (context : Context place own first last before after) :
    Context place.deeper own first last before after :=
  ⟨context.apart, context.older, context.known⟩

/-- What opens a function. -/
theorem opens_call (place : Place) (own : List Text) (first depth : Nat) (code : Text) :
    ∀ event ∈ [place.event (.define first), place.event (.deferred (.call depth code first)),
        (place.within own first).event .pass, (place.within own first).event (.declaration first)],
      place.Holds first (first + 1) event ∧ event.names = [] ∧
        ∀ number, first < number → event.defined? ≠ some number := by
  have within (entry : Entry) := Place.holds_of_within (Nat.lt_succ_self first)
    ((place.within own first).holds_event (first + 1) (first + 1) entry)
  simp only [List.forall_mem_cons]
  refine ⟨⟨place.holds_event .., rfl, fun number less => ?_⟩,
    ⟨place.holds_event .., rfl, by simp [Event.defined?, Place.event]⟩,
    ⟨within _, rfl, by simp [Event.defined?, Place.event]⟩,
    ⟨within _, rfl, by simp [Event.defined?, Place.event]⟩, by simp⟩
  simp only [Event.defined?, Place.event, ne_eq, Option.some.injEq]
  omega

/-- What closes a function. -/
theorem closes_call (place : Place) (own : List Text) (first depth : Nat) (code : Text)
    (shared : List Text) :
    ∀ event ∈ [(place.within own first).event (.shares first shared),
        place.event (.released (.call depth code first))],
      place.Holds first (first + 1) event ∧ event.names = [] ∧ event.defined? = none := by
  have within (entry : Entry) := Place.holds_of_within (Nat.lt_succ_self first)
    ((place.within own first).holds_event (first + 1) (first + 1) entry)
  simp only [List.forall_mem_cons]
  exact ⟨⟨within _, rfl, rfl⟩, ⟨place.holds_event .., rfl, rfl⟩, by simp⟩

/-- Inside a function all that was known around it is known from outside. -/
theorem within (context : Context place own first last before after) (less : first < last)
    {opening closing : List Event}
    (opens : ∀ event ∈ opening, place.Holds first (first + 1) event ∧ event.names = [] ∧
      ∀ number, first < number → event.defined? ≠ some number)
    (closes : ∀ event ∈ closing, place.Holds first (first + 1) event ∧ event.names = [] ∧
      event.defined? = none) :
    Context (place.within own first) [] (first + 1) last (before ++ opening) (closing ++ after) where
  apart := by
    intro event member number low high
    have start : first ≤ number := by omega
    simp only [List.mem_append] at member
    rcases member with (early | opened) | closed | late
    · exact context.apart event (List.mem_append_left _ early) number start high
    · obtain ⟨holds, _, defined⟩ := opens event opened
      exact ⟨holds.head?_ne (.inr low) (context.absent start), defined number low⟩
    · obtain ⟨holds, _, defined⟩ := closes event closed
      exact ⟨holds.head?_ne (.inr low) (context.absent start), by simp [defined]⟩
    · exact context.apart event (List.mem_append_right _ late) number start high
  older := by
    simp only [Place.within, List.forall_mem_cons]
    refine ⟨Nat.lt_succ_self first, fun number member => ?_⟩
    have early := context.older number member
    omega
  known := by
    intro name
    have quiet : (opening.filter fun event =>
        event.around.head?.all (first :: place.around).contains).flatMap Event.names = [] :=
      List.flatMap_eq_nil_iff.mpr fun event member =>
        (opens event (List.mem_filter.mp member).1).2.1
    have same : (before.filter fun event =>
          event.around.head?.all (first :: place.around).contains) =
        before.filter fun event => event.around.head?.all place.around.contains := by
      refine List.filter_congr fun event member => ?_
      have apart := (context.apart event (List.mem_append_left _ member) first (Nat.le_refl _) less).1
      cases owner : event.around.head? with
      | none => rfl
      | some number =>
        have other : number ≠ first := fun equal => apart (equal ▸ owner)
        simp [other]
    rw [List.nil_append, Place.within, knownAt_append, quiet, List.append_nil, knownAt, same]
    exact context.known name

end Context

/-! ### The functions of a log -/

theorem recordedIn_call (context : Context place own first last before after) (less : first < last)
    {opening closing : List Event}
    (opens : ∀ event ∈ opening, place.Holds first (first + 1) event ∧ event.names = [] ∧
      ∀ number, first < number → event.defined? ≠ some number)
    (closes : ∀ event ∈ closing, place.Holds first (first + 1) event ∧ event.names = [] ∧
      event.defined? = none)
    (inside : ∀ event ∈ events, (place.within own first).Holds (first + 1) last event) :
    recordedIn (before ++ (opening ++ events ++ closing ++ after)) first =
      (place.within own first).ownNames events := by
  have none {piece : List Event} (apart : ∀ event ∈ piece, event.around.head? ≠ some first) :
      piece.filter (fun event => event.around.head? = some first) = [] :=
    List.filter_eq_nil_iff.mpr fun event member => by simp [apart event member]
  have quiet {piece : List Event} (silent : ∀ event ∈ piece, event.names = []) :
      (piece.filter fun event => event.around.head? = some first).flatMap Event.names = [] :=
    List.flatMap_eq_nil_iff.mpr fun event member => silent event (List.mem_filter.mp member).1
  have early := none fun event member =>
    (context.apart event (List.mem_append_left _ member) first (Nat.le_refl _) less).1
  have late := none fun event member =>
    (context.apart event (List.mem_append_right _ member) first (Nat.le_refl _) less).1
  have own : events.filter (fun event => event.around.head? = some first) =
      events.filter fun event => event.around = (place.within own first).around := by
    refine List.filter_congr fun event member => ?_
    rcases (inside event member).owner with here | ⟨number, found, low, _⟩
    · simp [here, Place.within]
    · have other : number ≠ first := by omega
      have apart : event.around ≠ first :: place.around := by
        intro same
        rw [same] at found
        exact other (Option.some.inj found).symm
      simp [found, other, Place.within, apart]
  simp only [recordedIn, List.filter_append, List.flatMap_append, early, late, own,
    quiet fun event member => (opens event member).2.1,
    quiet fun event member => (closes event member).2.1, List.nil_append, List.append_nil,
    Place.ownNames]

theorem knownTo_call (context : Context place own first last before after) (less : first < last)
    (rest : List Event) :
    knownTo (before ++ (place.event (.define first) :: rest)) first =
      knownAt before place.around := by
  have absent : ∀ event ∈ before, event.defines first = false := by
    intro event member
    have apart :=
      (context.apart event (List.mem_append_left _ member) first (Nat.le_refl _) less).2
    simpa [Event.defines] using apart
  have here : (place.event (.define first)).defines first = true := by
    simp [Event.defines, Event.defined?, Place.event]
  have missing : before.find? (Event.defines first) = none :=
    List.find?_eq_none.mpr fun event member => by simp [absent event member]
  rw [knownTo, List.takeWhile_append_of_pos (fun event member => by simp [absent event member]),
    List.takeWhile_cons, here, List.find?_append, missing, Option.none_or, List.find?_cons, here]
  simp [Place.event]

/-- What is around a piece changes nothing in what is filled in. -/
theorem filled_wrap {shared : Nat → List Text} {opening closing : List Event}
    (opens : ∀ event ∈ opening, place.Plain first event) (inside : Filled shared events)
    (closes : ∀ event ∈ closing, place.Plain first event) :
    Filled shared (opening ++ events ++ closing) := by
  have bare {event : Event} (plain : place.Plain first event) (number : Nat) (names : List Text)
      (shares : event.entry = .shares number names) : shared number = names :=
    absurd shares (plain.unshared number names)
  exact List.forall_mem_append.mpr ⟨List.forall_mem_append.mpr
    ⟨fun event member => bare (opens event member), inside⟩,
    fun event member => bare (closes event member)⟩

/-- A function shares the names recorded in it that are known to it. -/
theorem Nested.shares (nested : Nested place own first events statements last)
    (context : Context place own first last before after) :
    Filled (sharedOf (before ++ (events ++ after))) events := by
  induction nested generalizing before after with
  | nil => simp [Filled]
  | append one other left right =>
    have early := left (context.early other)
    have late := right (context.late one)
    simp only [List.append_assoc] at early late ⊢
    exact List.forall_mem_append.mpr ⟨early, late⟩
  | output => simp [Filled, Place.event]
  | statement => simp [Filled, Place.event]
  | oneLiner => simp [Filled, Place.event]
  | @indent place own first last inner _ depth inside ih =>
    have opens := place.forall_plain first [.deferred (.indent depth)] rfl
    have closes := place.forall_plain first [.released (.indent depth)] rfl
    have within := context.wrap opens closes
    rw [Place.ownNames_quiet (by simp [Event.names, Place.event]), List.append_nil] at within
    have found := filled_wrap opens (ih within) closes
    simpa only [List.append_assoc, List.map_cons, List.map_nil] using found
  | @tag place own first last inner _ depth text inside ih =>
    have opens := place.forall_plain first
      [.output ⟨.safe, text.start, depth⟩, .deferred (.endTag depth text.stop)] rfl
    have closes := place.forall_plain first [.released (.endTag depth text.stop)] rfl
    have within := context.wrap opens closes
    rw [Place.ownNames_quiet (by simp [Event.names, Place.event]), List.append_nil] at within
    have found := filled_wrap opens (ih within) closes
    simpa only [List.append_assoc, List.map_cons, List.map_nil] using found
  | @block place own first last inner _ depth header inside ih =>
    have opens : ∀ event ∈ [place.event (.header header), place.event (.deferred (.block depth)),
        place.deeper.event .pass], place.Plain first event := by
      simp only [List.forall_mem_cons]
      exact ⟨place.plain_event first rfl, place.plain_event first rfl,
        Place.Plain.of_deeper (place.deeper.plain_event first rfl), by simp⟩
    have closes := place.forall_plain first [.released (.block depth)] rfl
    have names : place.ownNames [place.event (.header header),
        place.event (.deferred (.block depth)), place.deeper.event .pass] = boundNames header := by
      simp [Place.ownNames, Place.event, Place.deeper, Event.names]
    have within := context.wrap opens closes
    rw [names] at within
    have found := filled_wrap opens (ih within.deeper) closes
    simpa only [List.append_assoc, List.map_cons, List.map_nil] using found
  | @call place own first last inner _ shared depth code inside shares ih =>
    have opens := Context.opens_call place own first depth code
    have closes := Context.closes_call place own first depth code shared
    have less : first < last := inside.le
    have found := ih (context.within less opens closes)
    have recorded := recordedIn_call context less opens closes inside.holds
    have known := knownTo_call context less
    simp only [List.append_assoc, List.cons_append, List.nil_append] at found recorded ⊢
    simp only [Filled, List.forall_mem_cons, List.forall_mem_append]
    refine ⟨by simp [Place.event], by simp [Place.event], by simp [Place.event],
      by simp [Place.event], found, ?_, by simp [Place.event], by simp⟩
    rintro number names ⟨⟩
    rw [sharedOf, recorded, known, shares]
    exact Builder.sharedNames_congr fun name => (context.known name).symm

/-! ### The declarations of a program -/

theorem context_top (last : Nat) : Context .top givenNames 0 last [] [] where
  apart := by simp
  older := by simp [Place.top]
  known := by simp [Place.top, knownAt]

/-- The names in the log of a program are those that its functions share. -/
theorem Nested.filled {log : List Event} (nested : Nested .top givenNames 0 log statements last) :
    Filled (sharedOf log) log := by
  have found := nested.shares (context_top last)
  rwa [List.nil_append, List.append_nil] at found

/-- The header of a function is the only one with its number, so it is there that its names are
known. -/
theorem knownTo_header {log : List Event} (once : (log.filterMap Event.defined?).Nodup)
    {event : Event} {number : Nat} (split : log = before ++ event :: after)
    (defines : event.entry = .define number) : knownTo log number = knownAt before event.around := by
  have defined : event.defined? = some number := by simp [Event.defined?, defines]
  have here : event.defines number = true := by simp [Event.defines, defined]
  rw [split, List.filterMap_append, List.filterMap_cons_some defined, List.nodup_append] at once
  have absent : ∀ other ∈ before, other.defines number = false := by
    intro other member
    have apart : other.defined? ≠ some number := fun same =>
      once.2.2 number (List.mem_filterMap.mpr ⟨other, member, same⟩) number
        (List.mem_cons_self ..) rfl
    simpa [Event.defines] using apart
  have missing : before.find? (Event.defines number) = none :=
    List.find?_eq_none.mpr fun other member => by simp [absent other member]
  rw [split, knownTo, List.takeWhile_append_of_pos fun other member => by simp [absent other member],
    List.takeWhile_cons, here, List.find?_append, missing, Option.none_or, List.find?_cons, here]
  simp

/-- The declarations in a program, as its log has them. Names are known to a function if they are
given or bound before its header, by silent code that stands in no function or, innermost, in one of
those around the header; all that is bound in other functions is left out. -/
structure Declares (log : List Event) (program : Program) : Prop where
  /-- What is declared is in the code where the log has it. -/
  code : visible (Statement.codeLinesOf 1 program.body) =
    visible (log.flatMap (Event.lines (sharedOf log)))
  /-- A declaration comes right behind the statement that does nothing. -/
  opens : ∀ before event after number, log = before ++ event :: after →
    event.entry = .define number → OpensFunction event number after
  members : ∀ before event after number name, log = before ++ event :: after →
    event.entry = .define number →
    (name ∈ sharedOf log number ↔
      name ∈ recordedIn log number ∧ name ∈ knownAt before event.around)
  ordered : ∀ number, (sharedOf log number).Pairwise fun one next => one.Lex (· < ·) next

/-- Every function declares what it shares with the code around it, and nothing else. -/
theorem sharing_is_exact {tokens : List Token} {contextType : Text} {program : Program}
    (compiled : Program.ofTokens tokens contextType = .ok program) :
    ∃ turns, Program.turns tokens = .ok turns ∧ Declares (Ledger.ofTurns turns).log program := by
  obtain ⟨turns, last, read, taken, nested⟩ := nested_program compiled
  refine ⟨turns, read, (nested.lines nested.filled).symm, ?_, ?_, ?_⟩
  · intro before event after number split defines
    have opens := (nested.opens [] []).at_split split number defines
    rwa [List.append_nil] at opens
  · intro before event after number name split defines
    have once : ((Ledger.ofTurns turns).log.filterMap Event.defined?).Nodup := by
      rw [nested.defined]
      exact List.nodup_range'
    rw [← knownTo_header once split defines, sharedOf, Builder.sharedNames, Text.mem_sortUnique,
      List.mem_filter, List.contains_iff_mem]
  · exact fun number => Text.pairwise_sortUnique _

/-- Three functions: one in another, and one behind both. -/
def sharingTokens : List Token :=
  (Lexer.lex (Text.join ['\n'] ["- y = 1".toList, "= self.a".toList, "  - y = 2".toList,
    "  - z = 3".toList, "  = self.b".toList, "    - z = 4".toList, "    - w = 5".toList,
    "= self.c".toList, "  - z = 6".toList, "  - w = 7".toList])).toOption.getD []

theorem sharing_is_exact_nested :
    ∃ program turns, Program.ofTokens sharingTokens "Page".toList = .ok program ∧
      Program.turns sharingTokens = .ok turns ∧ Declares (Ledger.ofTurns turns).log program ∧
      (List.range (Ledger.ofTurns turns).functions).map (sharedOf (Ledger.ofTurns turns).log) =
        [["y".toList], ["z".toList], []] := by
  have compiles : (Program.ofTokens sharingTokens "Page".toList).toOption.isSome = true := by
    decide +kernel
  have shared : (Program.turns sharingTokens).toOption.map (fun turns =>
      decide ((List.range (Ledger.ofTurns turns).functions).map
        (sharedOf (Ledger.ofTurns turns).log) =
          [["y".toList], ["z".toList], []])) = some true := by
    decide +kernel
  obtain ⟨program, compiled⟩ := Outcome.ok_of_isSome compiles
  obtain ⟨turns, read, declares⟩ := sharing_is_exact compiled
  rw [read] at shared
  exact ⟨program, turns, compiled, read, declares, of_decide_eq_true (Option.some.inj shared)⟩

end Journal

end Stencil

/-! ### What waits to be written -/

namespace Stencil

namespace Journal

/-- What is so between two turns. -/
structure Steady (ledger : Ledger) : Prop where
  /-- Nothing is less deep than what is below it. -/
  rises : ledger.stack.Pairwise fun above below => below.depth ≤ above.depth
  opened : ledger.opened = ledger.stack.countP Deferred.isBlock
  /-- Every scope but the outermost belongs to a function on the stack, in the order there. -/
  scopes : ledger.scopes.map Scope.closing =
    (ledger.stack.filter fun one => one.number?.isSome).map some ++ [none]

theorem Follows.steady {ledger : Ledger} {builder : Builder} (follows : Follows ledger builder) :
    Steady ledger where
  rises := by
    rw [follows.stack, List.pairwise_map]
    exact follows.rises.imp fun above => by rwa [Pending.depth_deferred, Pending.depth_deferred]
  opened := by
    rw [follows.stack, follows.opened, List.countP_map]
    exact List.countP_congr fun one _ => by rw [Function.comp_apply, Pending.isBlock_deferred]
  scopes := by rw [follows.scopes, follows.stack, closings_scopesOf]

/-- Wherever a run is cut, the books are steady there. -/
theorem steady_takeTurns {turns done later : List Builder.Turn} {last : Builder}
    (taken : Builder.initial.takeTurns turns = .ok last) (split : turns = done ++ later) :
    Steady (Ledger.initial.takeTurns done) := by
  rw [split, Builder.takeTurns_append] at taken
  obtain ⟨between, first, _⟩ := Outcome.bind_eq_ok.mp taken
  exact (follows_initial.takeTurns first).steady

/-- How the stack is used in a run, and what comes of it in the code. -/
structure Balanced (turns : List Builder.Turn) (program : Program) : Prop where
  /-- The code is what the log has, line by line. -/
  code : visible (Statement.codeLinesOf 1 program.body) =
    visible ((Ledger.ofTurns turns).log.flatMap
      (Event.lines (sharedOf (Ledger.ofTurns turns).log)))
  /-- Only what is on top comes down, and all of it does. -/
  once : replay [] (Ledger.ofTurns turns).log = some []
  closes : ∀ before event after one, (Ledger.ofTurns turns).log = before ++ event :: after →
    event.entry = .deferred one → Closes before event one after
  defined : (Ledger.ofTurns turns).log.filterMap Event.defined? =
    List.range (Ledger.ofTurns turns).functions
  used : ((Ledger.ofTurns turns).log.filterMap Event.used?).Perm
    (List.range (Ledger.ofTurns turns).functions)
  steady : ∀ done later, turns = done ++ later → Steady (Ledger.initial.takeTurns done)
  emptied : (Ledger.ofTurns turns).stack = [] ∧ (Ledger.ofTurns turns).opened = 0 ∧
    (Ledger.ofTurns turns).scopes.map Scope.closing = [none]

/-- All that waits is written where it belongs, and nothing waits in the end. -/
theorem stack_is_balanced {tokens : List Token} {contextType : Text} {program : Program}
    (compiled : Program.ofTokens tokens contextType = .ok program) :
    ∃ turns, Program.turns tokens = .ok turns ∧ Balanced turns program := by
  obtain ⟨turns, last, read, taken, nested⟩ := nested_program compiled
  have numbers : List.range' 0 ((Ledger.ofTurns turns).functions - 0) =
      List.range (Ledger.ofTurns turns).functions := by
    rw [Nat.sub_zero, List.range_eq_range']
  obtain ⟨follows, empty⟩ := follows_finish taken
  have steady := follows.steady
  have stack : (Ledger.ofTurns turns).stack = [] := by rw [follows.stack, empty, List.map_nil]
  refine ⟨turns, read, {
    code := (nested.lines nested.filled).symm
    once := nested.replay []
    closes := ?closes
    defined := numbers ▸ nested.defined
    used := numbers ▸ nested.used
    steady := fun done later => steady_takeTurns taken
    emptied := ⟨stack, ?opened, ?scopes⟩ }⟩
  case closes =>
    intro before event after one split defers
    have closes := (nested.allClose [] []).at_split split one defers
    rwa [List.append_nil] at closes
  case opened => rw [steady.opened, stack, List.countP_nil]
  case scopes => rw [steady.scopes, stack, List.filter_nil, List.map_nil, List.nil_append]

/-- A tag around a function and a silent block, and one that ends on its line. -/
def balancedTokens : List Token :=
  (Lexer.lex (Text.join ['\n'] ["%div".toList, "  = self.form".toList, "    %p Hello".toList,
    "  - for x in self.y".toList, "    = x".toList, "  = self.form".toList,
    "    = self.z".toList])).toOption.getD []

def Event.isDeferred (event : Event) : Bool :=
  match event.entry with
  | .deferred _ => true
  | _ => false

theorem stack_is_balanced_nested :
    ∃ program turns, Program.ofTokens balancedTokens "Page".toList = .ok program ∧
      Program.turns balancedTokens = .ok turns ∧ Balanced turns program ∧
      (Ledger.ofTurns turns).functions = 2 ∧
      (Ledger.ofTurns turns).log.countP Event.isDeferred = 11 := by
  have compiles : (Program.ofTokens balancedTokens "Page".toList).toOption.isSome = true := by
    decide +kernel
  have counted : (Program.turns balancedTokens).toOption.map (fun turns =>
      decide ((Ledger.ofTurns turns).functions = 2 ∧
        (Ledger.ofTurns turns).log.countP Event.isDeferred = 11)) = some true := by
    decide +kernel
  obtain ⟨program, compiled⟩ := Outcome.ok_of_isSome compiles
  obtain ⟨turns, read, balanced⟩ := stack_is_balanced compiled
  rw [read] at counted
  obtain ⟨functions, waited⟩ := of_decide_eq_true (Option.some.inj counted)
  exact ⟨program, turns, compiled, read, balanced, functions, waited⟩

end Journal

end Stencil
