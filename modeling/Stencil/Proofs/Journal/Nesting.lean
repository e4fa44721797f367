import Stencil.Proofs.Journal.Ledger

/-!
Logs that are nested like the code they stand for, and what follows for the lines in them.
-/

set_option autoImplicit false

namespace Stencil

open Markup (boundNames)

namespace Journal

/-- Where code stands: its level, the functions around it and the names that are bound around the
innermost of them. -/
structure Place where
  level : Nat
  around : List Nat
  outer : List Text

namespace Place

def top : Place := ⟨1, [], []⟩

def event (place : Place) (entry : Entry) : Event := ⟨place.level, place.around, entry⟩

def deeper (place : Place) : Place := { place with level := place.level + 1 }

/-- The inside of a function, given the names bound around it. -/
def within (place : Place) (own : List Text) (number : Nat) : Place :=
  ⟨place.level + 1, number :: place.around, own ++ place.outer⟩

/-- The names that events bind at the place and in the silent blocks there. -/
def ownNames (place : Place) (events : List Event) : List Text :=
  (events.filter fun event => event.around = place.around).flatMap Event.names

theorem ownNames_nil (place : Place) : place.ownNames [] = [] := rfl

theorem ownNames_append (place : Place) (left right : List Event) :
    place.ownNames (left ++ right) = place.ownNames left ++ place.ownNames right := by
  simp [ownNames]

theorem ownNames_event (place : Place) (entry : Entry) :
    place.ownNames [place.event entry] = (place.event entry).names := by
  simp [ownNames, event]

/-- Entries that bind no names. -/
theorem ownNames_quiet {place : Place} {events : List Event}
    (quiet : ∀ event ∈ events, event.names = []) : place.ownNames events = [] :=
  List.flatMap_eq_nil_iff.mpr fun event member => quiet event (List.mem_filter.mp member).1

theorem ownNames_deeper (place : Place) (events : List Event) :
    place.deeper.ownNames events = place.ownNames events := rfl

/-- Whether an event is there or deeper, inside functions that are numbered in a range. -/
def Holds (place : Place) (first last : Nat) (event : Event) : Prop :=
  place.level ≤ event.level ∧ ∃ extra, event.around = extra ++ place.around ∧
    ∀ number ∈ extra, first ≤ number ∧ number < last

theorem holds_event (place : Place) (first last : Nat) (entry : Entry) :
    place.Holds first last (place.event entry) :=
  ⟨Nat.le_refl _, [], rfl, by simp⟩

theorem Holds.widen {place : Place} {low first last high : Nat} {event : Event}
    (holds : place.Holds first last event) (below : low ≤ first) (above : last ≤ high) :
    place.Holds low high event := by
  obtain ⟨level, extra, same, bounds⟩ := holds
  refine ⟨level, extra, same, fun number member => ?_⟩
  have bound := bounds number member
  omega

theorem holds_of_deeper {place : Place} {first last : Nat} {event : Event}
    (holds : place.deeper.Holds first last event) : place.Holds first last event :=
  ⟨Nat.le_of_succ_le holds.1, holds.2⟩

theorem holds_of_within {place : Place} {own : List Text} {first last : Nat} {event : Event}
    (less : first < last) (holds : (place.within own first).Holds (first + 1) last event) :
    place.Holds first last event := by
  obtain ⟨level, extra, same, bounds⟩ := holds
  refine ⟨Nat.le_of_succ_le level, extra ++ [first], by simp [same, within], fun number member => ?_⟩
  rcases List.mem_append.mp member with inside | single
  · have bound := bounds number inside
    omega
  · cases List.mem_singleton.mp single
    omega

end Place

/-- Events, and the statements that they are the log of. Functions are numbered from one number up
to another, and names are bound before the first event. -/
inductive Nested : Place → List Text → Nat → List Event → List Statement → Nat → Prop where
  | nil (place : Place) (own : List Text) (number : Nat) : Nested place own number [] [] number
  | append {place : Place} {own : List Text} {first middle last : Nat} {one other : List Event}
      {left right : List Statement} (before : Nested place own first one left middle)
      (after : Nested place (own ++ place.ownNames one) middle other right last) :
      Nested place own first (one ++ other) (left ++ right) last
  | output (place : Place) (own : List Text) (number : Nat) (output : Output) :
      Nested place own number [place.event (.output output)] [.line (.output output)] number
  | statement (place : Place) (own : List Text) (number : Nat) (code : Text) :
      Nested place own number [place.event (.statement code)] [.control code] number
  | oneLiner (place : Place) (own : List Text) (number depth : Nat) (text : Builder.TagText)
      (kind : OutputKind) (body : Text) :
      Nested place own number
        [place.event (.deferred (.endTag depth text.stop)),
          place.event (.absorbed (.endTag depth text.stop)
            ⟨.expression, Builder.fused text kind body, depth⟩)]
        [.line (.output ⟨.expression, Builder.fused text kind body, depth⟩)] number
  | indent {place : Place} {own : List Text} {first last : Nat} {inner : List Event}
      {body : List Statement} (depth : Nat) (inside : Nested place own first inner body last) :
      Nested place own first
        ([place.event (.deferred (.indent depth))] ++ inner ++
          [place.event (.released (.indent depth))])
        body last
  | tag {place : Place} {own : List Text} {first last : Nat} {inner : List Event}
      {body : List Statement} (depth : Nat) (text : Builder.TagText)
      (inside : Nested place own first inner body last) :
      Nested place own first
        ([place.event (.output ⟨.safe, text.start, depth⟩),
            place.event (.deferred (.endTag depth text.stop))] ++ inner ++
          [place.event (.released (.endTag depth text.stop))])
        ([.line (.output ⟨.safe, text.start, depth⟩)] ++ body ++
          [.line (.output ⟨.safe, text.stop, depth⟩)])
        last
  | block {place : Place} {own : List Text} {first last : Nat} {inner : List Event}
      {body : List Statement} (depth : Nat) (header : Text)
      (inside : Nested place.deeper (own ++ boundNames header) first inner body last) :
      Nested place own first
        ([place.event (.header header), place.event (.deferred (.block depth)),
            place.deeper.event .pass] ++ inner ++
          [place.event (.released (.block depth))])
        [.block header body] last
  | call {place : Place} {own : List Text} {first last : Nat} {inner : List Event}
      {body : List Statement} {shared : List Text} (depth : Nat) (code : Text)
      (inside : Nested (place.within own first) [] (first + 1) inner body last)
      (shares : shared = Builder.sharedNames ((place.within own first).ownNames inner)
        (own ++ place.outer)) :
      Nested place own first
        ([place.event (.define first), place.event (.deferred (.call depth code first)),
            (place.within own first).event .pass,
            (place.within own first).event (.declaration first)] ++ inner ++
          [(place.within own first).event (.shares first shared),
            place.event (.released (.call depth code first))])
        [.function first shared body, .control (Builder.callStatement depth code first)] last

variable {place : Place} {own : List Text} {first last : Nat} {events : List Event}
  {statements : List Statement}

/-- Before the first statement of a block, whose statements are held in reverse. -/
theorem Nested.nothing (place : Place) (own : List Text) (number : Nat) :
    Nested place own number [] ([] : List Statement).reverse number := .nil ..

theorem Nested.le (nested : Nested place own first events statements last) : first ≤ last := by
  induction nested with
  | append _ _ left right => exact Nat.le_trans left right
  | indent _ _ ih => exact ih
  | tag _ _ _ ih => exact ih
  | block _ _ _ ih => exact ih
  | call _ _ _ _ ih => exact Nat.le_of_succ_le ih
  | _ => exact Nat.le_refl _

theorem Nested.holds (nested : Nested place own first events statements last) :
    ∀ event ∈ events, place.Holds first last event := by
  induction nested with
  | nil => simp
  | append before after left right =>
    exact List.forall_mem_append.mpr
      ⟨fun event member => (left event member).widen (Nat.le_refl _) after.le,
        fun event member => (right event member).widen before.le (Nat.le_refl _)⟩
  | output => simp [Place.holds_event]
  | statement => simp [Place.holds_event]
  | oneLiner => simp [Place.holds_event]
  | indent depth inside ih =>
    simp only [List.forall_mem_append]
    exact ⟨⟨by simp [Place.holds_event], ih⟩, by simp [Place.holds_event]⟩
  | tag depth text inside ih =>
    simp only [List.forall_mem_append]
    exact ⟨⟨by simp [Place.holds_event], ih⟩, by simp [Place.holds_event]⟩
  | @block place _ first last _ _ depth header inside ih =>
    have pass := Place.holds_of_deeper (place.deeper.holds_event first last .pass)
    simp only [List.forall_mem_append]
    exact ⟨⟨by simp [Place.holds_event, pass],
      fun event member => Place.holds_of_deeper (ih event member)⟩, by simp [Place.holds_event]⟩
  | @call place own first last _ _ _ depth code inside shares ih =>
    have within (entry : Entry) := Place.holds_of_within inside.le
      ((place.within own first).holds_event (first + 1) last entry)
    simp only [List.forall_mem_append]
    exact ⟨⟨by simp [Place.holds_event, within],
      fun event member => Place.holds_of_within inside.le (ih event member)⟩,
      by simp [Place.holds_event, within]⟩

/-! ### Names -/

/-- A function keeps the names that are bound in it. -/
theorem Place.ownNames_within {own : List Text} {number : Nat} {events : List Event}
    (holds : ∀ event ∈ events, (place.within own number).Holds first last event) :
    place.ownNames events = [] := by
  have none : events.filter (fun event => event.around = place.around) = [] := by
    refine List.filter_eq_nil_iff.mpr fun event member same => ?_
    obtain ⟨_, extra, longer, _⟩ := holds event member
    rw [of_decide_eq_true same] at longer
    have lengths := congrArg List.length longer
    simp [Place.within] at lengths
    omega
  rw [Place.ownNames, none]
  rfl

/-! ### The stack -/

/-- What an entry does to the stack; nothing leaves it that is not on top. -/
def Entry.move (stack : List Deferred) : Entry → Option (List Deferred)
  | deferred one => some (one :: stack)
  | released one => if stack.head? = some one then some stack.tail else none
  | absorbed one _ => if stack.head? = some one then some stack.tail else none
  | _ => some stack

/-- The stack behind events, if each of them can be. -/
def replay (stack : List Deferred) (events : List Event) : Option (List Deferred) :=
  events.foldlM (fun stack event => event.entry.move stack) stack

theorem replay_nil (stack : List Deferred) : replay stack [] = some stack := rfl

theorem replay_append (stack : List Deferred) (left right : List Event) :
    replay stack (left ++ right) =
      (replay stack left).bind fun between => replay between right :=
  List.foldlM_append

theorem replay_cons (stack : List Deferred) (event : Event) (rest : List Event) :
    replay stack (event :: rest) =
      (event.entry.move stack).bind fun between => replay between rest :=
  List.foldlM_cons

/-- What is put on the stack comes down again, the last first. -/
theorem Nested.replay (nested : Nested place own first events statements last)
    (stack : List Deferred) : Journal.replay stack events = some stack := by
  induction nested generalizing stack with
  | append _ _ left right => rw [replay_append, left, Option.bind_some, right]
  | indent _ _ ih => simp [replay_append, replay_cons, replay_nil, ih, Place.event, Entry.move]
  | tag _ _ _ ih => simp [replay_append, replay_cons, replay_nil, ih, Place.event, Entry.move]
  | block _ _ _ ih => simp [replay_append, replay_cons, replay_nil, ih, Place.event, Entry.move]
  | call _ _ _ _ ih => simp [replay_append, replay_cons, replay_nil, ih, Place.event, Entry.move]
  | _ => simp [replay_cons, replay_nil, Place.event, Entry.move]

/-- How something on the stack comes down: between the two the stack is not touched. What opens an
end tag stands right before it, at its depth and level; it is written or it goes into the expression
of its line. What opens a block stands right before it, and all lines between are deeper. -/
def Closes (before : List Event) (event : Event) (one : Deferred) (after : List Event) : Prop :=
  ∃ (inner : List Event) (closing : Event) (rest : List Event), after = inner ++ closing :: rest ∧
    replay [] inner = some [] ∧ closing.level = event.level ∧ closing.around = event.around ∧
    match one with
    | .indent _ => closing.entry = .released one
    | .endTag depth body => ∃ text : Builder.TagText, body = text.stop ∧
        (closing.entry = .released one ∧
            before.getLast? = some { event with entry := .output ⟨.safe, text.start, depth⟩ } ∨
          inner = [] ∧ ∃ kind content,
            closing.entry = .absorbed one ⟨.expression, Builder.fused text kind content, depth⟩)
    | .block _ => closing.entry = .released one ∧
        (∃ header, before.getLast? = some { event with entry := .header header }) ∧
        ∀ between ∈ inner, event.level < between.level
    | .call _ _ number => closing.entry = .released one ∧
        before.getLast? = some { event with entry := .define number } ∧
        ∀ between ∈ inner, event.level < between.level

/-- Whether something is so of every event, given those before it and those behind it. -/
def Throughout (holds : List Event → Event → List Event → Prop) (before : List Event) :
    List Event → List Event → Prop
  | [], _ => True
  | event :: rest, after =>
    holds before event (rest ++ after) ∧ Throughout holds (before ++ [event]) rest after

variable {holds : List Event → Event → List Event → Prop}

theorem throughout_append {before left right after : List Event} :
    Throughout holds before (left ++ right) after ↔
      Throughout holds before left (right ++ after) ∧
        Throughout holds (before ++ left) right after := by
  induction left generalizing before with
  | nil => simp [Throughout]
  | cons event rest ih => simp [Throughout, ih, and_assoc]

theorem Throughout.at_split {before events after : List Event}
    (all : Throughout holds before events after) {earlier later : List Event} {event : Event}
    (split : events = earlier ++ event :: later) :
    holds (before ++ earlier) event (later ++ after) := by
  subst split
  exact (throughout_append.mp all).2.1

/-- Whether everything that is put on the stack comes down properly. -/
def AllClose : List Event → List Event → List Event → Prop :=
  Throughout fun before event after =>
    ∀ one, event.entry = .deferred one → Closes before event one after

theorem Nested.allClose (nested : Nested place own first events statements last)
    (before after : List Event) : AllClose before events after := by
  induction nested generalizing before after with
  | nil => trivial
  | append _ _ left right => exact throughout_append.mpr ⟨left _ _, right _ _⟩
  | output => simp [AllClose, Throughout, Place.event]
  | statement => simp [AllClose, Throughout, Place.event]
  | oneLiner place own number depth text kind body =>
    simp only [AllClose, Throughout, Place.event, Entry.deferred.injEq, reduceCtorEq,
      false_implies, implies_true, and_self, and_true]
    rintro one rfl
    exact ⟨[], _, after, rfl, rfl, rfl, rfl, text, rfl, .inr ⟨rfl, kind, body, rfl⟩⟩
  | @indent place _ _ _ inner _ depth inside ih =>
    refine throughout_append.mpr ⟨throughout_append.mpr ⟨⟨?_, trivial⟩, ih _ _⟩,
      by simp [Throughout, Place.event]⟩
    rintro one ⟨⟩
    exact ⟨inner, place.event (.released (.indent depth)), after, by simp, inside.replay [], rfl,
      rfl, rfl⟩
  | @tag place _ _ _ inner _ depth text inside ih =>
    refine throughout_append.mpr ⟨throughout_append.mpr ⟨⟨by simp [Place.event], ?_, trivial⟩, ih _ _⟩,
      by simp [Throughout, Place.event]⟩
    rintro one ⟨⟩
    exact ⟨inner, place.event (.released (.endTag depth text.stop)), after, by simp,
      inside.replay [], rfl, rfl, text, rfl, .inl ⟨rfl, by simp [Place.event]⟩⟩
  | @block place _ _ _ inner _ depth header inside ih =>
    refine throughout_append.mpr ⟨throughout_append.mpr ⟨⟨by simp [Place.event], ?_,
      by simp [Place.event], trivial⟩, ih _ _⟩, by simp [Throughout, Place.event]⟩
    rintro one ⟨⟩
    refine ⟨place.deeper.event .pass :: inner, place.event (.released (.block depth)), after,
      by simp, ?_, rfl, rfl, rfl, ⟨header, by simp [Place.event]⟩, ?_⟩
    · simpa [replay_cons, Place.event, Entry.move] using inside.replay []
    · rintro between (_ | ⟨_, member⟩)
      · exact Nat.lt_succ_self _
      · exact (inside.holds between member).1
  | @call place own first _ inner _ shared depth code inside shares ih =>
    refine throughout_append.mpr ⟨throughout_append.mpr ⟨⟨by simp [Place.event], ?_,
      by simp [Place.event], by simp [Place.event], trivial⟩, ih _ _⟩,
      by simp [Throughout, Place.event]⟩
    rintro one ⟨⟩
    have deep (entry : Entry) : place.level < ((place.within own first).event entry).level :=
      Nat.lt_succ_self _
    refine ⟨(place.within own first).event .pass ::
        (place.within own first).event (.declaration first) :: inner ++
        [(place.within own first).event (.shares first shared)],
      place.event (.released (.call depth code first)), after, by simp, ?_, rfl, rfl, rfl,
      by simp [Place.event], ?_⟩
    · have quiet := inside.replay []
      simp [replay_append, replay_cons, replay_nil, quiet, Place.event, Entry.move]
    · simp only [List.forall_mem_append, List.forall_mem_cons]
      exact ⟨⟨deep _, deep _, fun between member => (inside.holds between member).1⟩, deep _,
        by simp⟩

/-- How the body of a function begins. -/
def OpensFunction (event : Event) (number : Nat) (after : List Event) : Prop :=
  ∃ (depth : Nat) (code : Text) (rest : List Event),
    after = { event with entry := .deferred (.call depth code number) } ::
      ⟨event.level + 1, number :: event.around, .pass⟩ ::
      ⟨event.level + 1, number :: event.around, .declaration number⟩ :: rest

theorem Nested.opens (nested : Nested place own first events statements last)
    (before after : List Event) :
    Throughout (fun _ event after =>
      ∀ number, event.entry = .define number → OpensFunction event number after)
      before events after := by
  induction nested generalizing before after with
  | nil => trivial
  | append _ _ left right => exact throughout_append.mpr ⟨left _ _, right _ _⟩
  | indent _ _ ih => simp [throughout_append, Throughout, Place.event, ih]
  | tag _ _ _ ih => simp [throughout_append, Throughout, Place.event, ih]
  | block _ _ _ ih => simp [throughout_append, Throughout, Place.event, ih]
  | @call place own first _ inner _ shared depth code inside shares ih =>
    refine throughout_append.mpr ⟨throughout_append.mpr ⟨⟨?_, by simp [Place.event],
      by simp [Place.event], by simp [Place.event], trivial⟩, ih _ _⟩,
      by simp [Throughout, Place.event]⟩
    rintro number ⟨⟩
    exact ⟨depth, code, inner ++ [(place.within own first).event (.shares first shared),
      place.event (.released (.call depth code first))] ++ after, by
        simp [Place.event, Place.within]⟩
  | _ => simp [Throughout, Place.event]

/-! ### Numbers -/

def Event.defined? (event : Event) : Option Nat :=
  match event.entry with
  | .define number => some number
  | _ => none

/-- The function that is handed over by the line of an event. -/
def Event.used? (event : Event) : Option Nat :=
  match event.entry with
  | .released one => one.number?
  | _ => none

theorem range'_middle {first middle last : Nat} (before : first ≤ middle) (after : middle ≤ last) :
    List.range' first (middle - first) ++ List.range' middle (last - middle) =
      List.range' first (last - first) := by
  have start : first + (middle - first) = middle := by omega
  have total : (middle - first) + (last - middle) = last - first := by omega
  have joined := @List.range'_append_1 first (middle - first) (last - middle)
  rwa [start, total] at joined

theorem range'_first {first last : Nat} (less : first + 1 ≤ last) :
    first :: List.range' (first + 1) (last - (first + 1)) = List.range' first (last - first) := by
  have total : last - first = last - (first + 1) + 1 := by omega
  rw [total, List.range'_succ]

/-- Functions are numbered in the order of their headers. -/
theorem Nested.defined (nested : Nested place own first events statements last) :
    events.filterMap Event.defined? = List.range' first (last - first) := by
  induction nested with
  | append before after left right =>
    rw [List.filterMap_append, left, right, range'_middle before.le after.le]
  | indent _ _ ih => simpa [List.filterMap_cons, Place.event, Event.defined?] using ih
  | tag _ _ _ ih => simpa [List.filterMap_cons, Place.event, Event.defined?] using ih
  | block _ _ _ ih => simpa [List.filterMap_cons, Place.event, Event.defined?] using ih
  | call _ _ inside _ ih =>
    rw [← range'_first inside.le, ← ih]
    simp [List.filterMap_cons, Place.event, Event.defined?]
  | _ => simp [Place.event, Event.defined?]

/-- Every function is handed over once. -/
theorem Nested.used (nested : Nested place own first events statements last) :
    (events.filterMap Event.used?).Perm (List.range' first (last - first)) := by
  induction nested with
  | append before after left right =>
    rw [List.filterMap_append, ← range'_middle before.le after.le]
    exact left.append right
  | indent _ _ ih =>
    simpa [List.filterMap_cons, Place.event, Event.used?, Deferred.number?] using ih
  | tag _ _ _ ih =>
    simpa [List.filterMap_cons, Place.event, Event.used?, Deferred.number?] using ih
  | block _ _ _ ih =>
    simpa [List.filterMap_cons, Place.event, Event.used?, Deferred.number?] using ih
  | @call _ _ first _ _ _ _ _ _ inside _ ih =>
    rw [← range'_first inside.le]
    have last := (List.perm_append_singleton first _).trans (ih.cons first)
    simpa [List.filterMap_cons, Place.event, Event.used?, Deferred.number?] using last
  | _ => simp [Place.event, Event.used?]

/-! ### Code -/

/-- The lines of code that say something. -/
def visible (lines : List CodeLine) : List CodeLine :=
  lines.filter fun line => !Text.allBlank line.content

theorem visible_append (left right : List CodeLine) :
    visible (left ++ right) = visible left ++ visible right :=
  List.filter_append ..

/-- Whether a declaration is given the names that go into it. -/
def Filled (shared : Nat → List Text) (events : List Event) : Prop :=
  ∀ event ∈ events, ∀ number names, event.entry = .shares number names → shared number = names

/-- The log of statements is their code. -/
theorem Nested.lines (nested : Nested place own first events statements last)
    {shared : Nat → List Text} (filled : Filled shared events) :
    visible (events.flatMap (Event.lines shared)) =
      visible (Statement.codeLinesOf place.level statements) := by
  induction nested with
  | nil => rfl
  | append before after left right =>
    obtain ⟨early, late⟩ := List.forall_mem_append.mp filled
    rw [List.flatMap_append, visible_append, left early, right late,
      Statement.codeLinesOf_append, visible_append]
  | output => simp [Event.lines, Place.event, Statement.codeLinesOf, Statement.codeLines]
  | statement =>
    simp [Event.lines, Place.event, Statement.codeLinesOf, Statement.codeLines, Statement.control,
      Line.statementForm]
  | oneLiner => simp [Event.lines, Place.event, Statement.codeLinesOf, Statement.codeLines]
  | indent depth inside ih =>
    have within := (List.forall_mem_append.mp (List.forall_mem_append.mp filled).1).2
    rw [List.flatMap_append, List.flatMap_append, visible_append, visible_append, ih within]
    simp [Event.lines, Place.event, visible, Text.allBlank]
  | @tag place _ _ _ _ body depth text inside ih =>
    have within := (List.forall_mem_append.mp (List.forall_mem_append.mp filled).1).2
    rw [List.flatMap_append, List.flatMap_append, visible_append, visible_append, ih within,
      Statement.codeLinesOf_append, Statement.codeLinesOf_append, visible_append, visible_append]
    simp [Event.lines, Place.event, Statement.codeLinesOf, Statement.codeLines]
  | @block place _ _ _ _ body depth header inside ih =>
    have within := (List.forall_mem_append.mp (List.forall_mem_append.mp filled).1).2
    have split : Statement.codeLinesOf place.level [.block header body] =
        [⟨place.level, header⟩, ⟨place.level + 1, "pass".toList⟩] ++
          Statement.codeLinesOf (place.level + 1) body := by
      simp [Statement.codeLinesOf, Statement.codeLines]
    rw [List.flatMap_append, List.flatMap_append, visible_append, visible_append, ih within, split,
      visible_append]
    simp [Event.lines, Place.event, Place.deeper, visible, Text.allBlank]
  | @call place own first _ _ body names depth code inside shares ih =>
    obtain ⟨before, behind⟩ := List.forall_mem_append.mp filled
    have within := (List.forall_mem_append.mp before).2
    have declared : shared first = names := behind _ (List.mem_cons_self ..) first names rfl
    have split : Statement.codeLinesOf place.level
          [.function first names body, .control (Builder.callStatement depth code first)] =
        [⟨place.level, Statement.blockHeader first⟩, ⟨place.level + 1, "pass".toList⟩] ++
          Statement.sharing (place.level + 1) names ++
          Statement.codeLinesOf (place.level + 1) body ++
          [⟨place.level, Builder.callStatement depth code first⟩] := by
      simp [Statement.codeLinesOf, Statement.codeLines, Statement.control, Line.statementForm]
    rw [List.flatMap_append, List.flatMap_append, visible_append, visible_append, ih within, split,
      visible_append, visible_append]
    simp [Event.lines, Place.event, Place.within, declared]

end Journal

end Stencil
