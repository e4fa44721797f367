import Stencil.Proofs.Journal.Sharing
import Stencil.Proofs.Turn.Recast

/-!
Books that are kept at other depths, from other numbers on, and on indentations at the margin: they
say the same at the new depths and with the new numbers.
-/

set_option autoImplicit false

namespace Stencil

open Markup (boundNames)

namespace Journal

/-- What becomes of depths and of the numbers of functions. -/
structure Moving where
  widen : Nat → Nat
  count : Nat
  /-- Whether indentations are left out. -/
  quiet : Bool

namespace Moving

variable (moving : Moving)

def deferred : Deferred → Deferred
  | .indent depth => .indent (moving.widen depth)
  | .endTag depth body => .endTag (moving.widen depth) body
  | .block depth => .block (moving.widen depth)
  | .call depth code number => .call (moving.widen depth) code (number + moving.count)

def output (output : Output) : Output := { output with depth := moving.widen output.depth.toNat }

def entry : Entry → Entry
  | .output one => .output (moving.output one)
  | .define number => .define (number + moving.count)
  | .declaration number => .declaration (number + moving.count)
  | .deferred one => .deferred (moving.deferred one)
  | .released one => .released (moving.deferred one)
  | .absorbed one into => .absorbed (moving.deferred one) (moving.output into)
  | .shares number names => .shares (number + moving.count) names
  | other => other

def event (event : Event) : Event :=
  ⟨event.level, event.around.map (· + moving.count), moving.entry event.entry⟩

/-- Whether an entry is looked at. The names that go into a declaration are said by the log itself. -/
def tells : Entry → Bool
  | .shares _ _ => false
  | .deferred (.indent _) => !moving.quiet
  | .released (.indent _) => !moving.quiet
  | _ => true

def told (log : List Event) : List Event := log.filter fun event => moving.tells event.entry

theorem told_append (first second : List Event) :
    moving.told (first ++ second) = moving.told first ++ moving.told second :=
  List.filter_append ..

theorem tells_entry (entry : Entry) : moving.tells (moving.entry entry) = moving.tells entry := by
  cases entry with
  | deferred one => cases one <;> rfl
  | released one => cases one <;> rfl
  | _ => rfl

theorem depth_deferred (one : Deferred) : (moving.deferred one).depth = moving.widen one.depth := by
  cases one <;> rfl

theorem isBlock_deferred (one : Deferred) : (moving.deferred one).isBlock = one.isBlock := by
  cases one <;> rfl

theorem number?_deferred (one : Deferred) :
    (moving.deferred one).number? = one.number?.map (· + moving.count) := by
  cases one <;> rfl

/-- The stack at the new depths. It may stand on indentations at the margin. -/
def Rests (stack other : List Deferred) : Prop :=
  ∃ roots : List Deferred, (∀ root ∈ roots, moving.quiet = true ∧ root = .indent 0) ∧
    other = stack.map moving.deferred ++ roots

end Moving

/-- Books that are kept beside others, behind what was told before. -/
structure Moves (moving : Moving) (earlier : List Event) (ledger other : Ledger) : Prop where
  log : moving.told other.log = earlier ++ (moving.told ledger.log).map moving.event
  stack : moving.Rests ledger.stack other.stack
  opened : other.opened = ledger.opened
  functions : other.functions = ledger.functions + moving.count

namespace Moves

variable {moving : Moving} {earlier : List Event} {ledger other : Ledger}

theorem depth (moves : Moves moving earlier ledger other) (flush : moving.widen 0 = 0) :
    other.depth = moving.widen ledger.depth := by
  obtain ⟨roots, margin, stack⟩ := moves.stack
  rw [Ledger.depth, Ledger.depth, stack]
  cases ledger.stack with
  | cons top rest => simp [moving.depth_deferred]
  | nil =>
    cases roots with
    | nil => simp [flush]
    | cons root more => simp [(margin root (List.mem_cons_self ..)).2, Deferred.depth, flush]

theorem around (moves : Moves moving earlier ledger other) :
    other.around = ledger.around.map (· + moving.count) := by
  obtain ⟨roots, margin, stack⟩ := moves.stack
  have quiet : roots.filterMap Deferred.number? = [] :=
    List.filterMap_eq_nil_iff.mpr fun root member => by rw [(margin root member).2]; rfl
  rw [Ledger.around, Ledger.around, stack, List.filterMap_append, quiet, List.append_nil,
    List.filterMap_map, List.map_filterMap]
  congr 1
  funext one
  exact moving.number?_deferred one

theorem note (moves : Moves moving earlier ledger other) (entry : Entry) :
    Moves moving earlier (ledger.note entry) (other.note (moving.entry entry)) where
  log := by
    simp only [Ledger.note, moving.told_append, moves.log, moves.opened, moves.around,
      List.map_append, List.append_assoc]
    by_cases tells : moving.tells entry = true
    next => simp [Moving.told, tells, moving.tells_entry, Moving.event]
    next => simp [Moving.told, tells, moving.tells_entry]
  stack := moves.stack
  opened := moves.opened
  functions := moves.functions

theorem defer (moves : Moves moving earlier ledger other) (one : Deferred) :
    Moves moving earlier (ledger.defer one) (other.defer (moving.deferred one)) where
  log := (moves.note (.deferred one)).log
  stack := by
    obtain ⟨roots, margin, stack⟩ := moves.stack
    exact ⟨roots, margin, by simp [Ledger.defer, stack]⟩
  opened := by simp [Ledger.defer, Ledger.note, moving.isBlock_deferred, moves.opened]
  functions := moves.functions

theorem bind (moves : Moves moving earlier ledger other) (code : Text) :
    Moves moving earlier (ledger.bind code) (other.bind code) :=
  ⟨moves.log, moves.stack, moves.opened, moves.functions⟩

/-! ### Closing -/

theorem stack_leave (ledger : Ledger) (one : Deferred) : (ledger.leave one).stack = ledger.stack := by
  rw [Ledger.leave]
  split
  next =>
    split
    next => rfl
    next => rfl
  next => rfl

theorem told_leave (ledger : Ledger) (one : Deferred) :
    moving.told (ledger.leave one).log = moving.told ledger.log := by
  rw [Ledger.leave]
  split
  next =>
    split
    next => simp [Ledger.note, Moving.told, Moving.tells]
    next => rfl
  next => rfl

theorem drop (moves : Moves moving earlier ledger other) (top : Deferred)
    {rest below : List Deferred} (stack : moving.Rests rest below) :
    Moves moving earlier (ledger.drop top rest) (other.drop (moving.deferred top) below) where
  log := moves.log
  stack := stack
  opened := by simp [Ledger.drop, moving.isBlock_deferred, moves.opened]
  functions := moves.functions

theorem leave (moves : Moves moving earlier ledger other) (one next : Deferred) :
    Moves moving earlier (ledger.leave one) (other.leave next) where
  log := by rw [told_leave, told_leave, moves.log]
  stack := by
    rw [stack_leave, stack_leave]
    exact moves.stack
  opened := by
    rw [(Follows.leave_keeps ..).1, (Follows.leave_keeps ..).1]
    exact moves.opened
  functions := by
    rw [(Follows.leave_keeps ..).2, (Follows.leave_keeps ..).2]
    exact moves.functions

theorem release (moves : Moves moving earlier ledger other) (top : Deferred)
    {rest below : List Deferred} (stack : moving.Rests rest below) :
    Moves moving earlier (ledger.release top rest) (other.release (moving.deferred top) below) :=
  ((moves.leave top (moving.deferred top)).drop top stack).note (.released top)

/-- An indentation at the margin comes down unseen. -/
theorem release_root (moves : Moves moving earlier ledger other) (quiet : moving.quiet = true)
    {roots : List Deferred} (stack : moving.Rests ledger.stack roots) :
    Moves moving earlier ledger (other.release (.indent 0) roots) where
  log := by
    rw [← moves.log]
    simp only [Ledger.release, Ledger.note, Ledger.drop, moving.told_append, told_leave]
    simp [Moving.told, Moving.tells, quiet]
  stack := stack
  opened := by
    simp only [Ledger.release, Ledger.note, Ledger.drop, (Follows.leave_keeps ..).1]
    exact moves.opened
  functions := by
    simp only [Ledger.release, Ledger.note, Ledger.drop, (Follows.leave_keeps ..).2]
    exact moves.functions

theorem flush_roots {downTo : Nat} (roots : List Deferred)
    (margin : ∀ root ∈ roots, moving.quiet = true ∧ root = .indent 0) {other : Ledger}
    (moves : Moves moving earlier ledger other) (bare : ledger.stack = [])
    (stack : other.stack = roots) :
    Moves moving earlier ledger (Ledger.flushStack downTo roots other) := by
  induction roots generalizing other with
  | nil => exact moves
  | cons root more ih =>
    obtain ⟨⟨quiet, rfl⟩, others⟩ := List.forall_mem_cons.mp margin
    rw [Ledger.flushStack]
    by_cases closes : downTo ≤ (Deferred.indent 0).depth
    next =>
      rw [if_pos closes]
      apply ih others
      · exact moves.release_root quiet ⟨more, others, by simp [bare]⟩
      · rfl
    next =>
      rw [if_neg closes]
      exact moves

theorem flush (moves : Moves moving earlier ledger other) (grows : StrictMono moving.widen)
    (downTo : Nat) :
    Moves moving earlier (ledger.flush downTo) (other.flush (moving.widen downTo)) := by
  suffices every : ∀ (stack : List Deferred) (ledger other : Ledger),
      ledger.stack = stack → Moves moving earlier ledger other →
      Moves moving earlier (Ledger.flushStack downTo stack ledger)
        (Ledger.flushStack (moving.widen downTo) other.stack other) from
    every ledger.stack ledger other rfl moves
  intro stack
  induction stack with
  | nil =>
    intro ledger other bare moves
    obtain ⟨roots, margin, same⟩ := moves.stack
    rw [bare, List.map_nil, List.nil_append] at same
    rw [Ledger.flushStack, same]
    exact moves.flush_roots roots margin bare same
  | cons top rest ih =>
    intro ledger other filled moves
    obtain ⟨roots, margin, same⟩ := moves.stack
    rw [filled, List.map_cons, List.cons_append] at same
    rw [same, Ledger.flushStack, Ledger.flushStack, moving.depth_deferred]
    have order : moving.widen downTo ≤ moving.widen top.depth ↔ downTo ≤ top.depth := grows.le_iff_le
    by_cases closes : downTo ≤ top.depth
    next =>
      rw [if_pos closes, if_pos (order.mpr closes)]
      exact ih _ _ rfl (moves.release top ⟨roots, margin, rfl⟩)
    next =>
      rw [if_neg closes, if_neg fun deep => closes (order.mp deep)]
      exact moves

/-! ### Turns -/

section Turns

variable (moves : Moves moving earlier ledger other) (flush : moving.widen 0 = 0)

include moves

theorem shift (grows : StrictMono moving.widen) (indent : Option Nat) :
    Moves moving earlier (ledger.shift indent) (other.shift (indent.map moving.widen)) := by
  cases indent with
  | none => exact moves
  | some depth => exact (moves.flush grows depth).defer (.indent depth)

include flush

theorem put (kind : OutputKind) (body : Text) :
    Moves moving earlier (ledger.put kind body) (other.put kind body) := by
  rw [Ledger.put, Ledger.put, moves.depth flush]
  exact moves.note (.output ⟨kind, body, ledger.depth⟩)

theorem openTag (text : Builder.TagText) :
    Moves moving earlier (ledger.openTag text) (other.openTag text) := by
  rw [Ledger.openTag, Ledger.openTag, moves.depth flush]
  exact (moves.put flush .safe text.start).defer (.endTag ledger.depth text.stop)

theorem oneLiner (text : Builder.TagText) (kind : OutputKind) (body : Text) :
    Moves moving earlier (ledger.oneLiner text kind body) (other.oneLiner text kind body) := by
  rw [Ledger.oneLiner, Ledger.oneLiner, moves.depth flush]
  let waits := Deferred.endTag ledger.depth text.stop
  exact ((moves.defer waits).drop waits moves.stack).note
    (.absorbed waits ⟨.expression, Builder.fused text kind body, ledger.depth⟩)

theorem call (code : Text) : Moves moving earlier (ledger.call code) (other.call code) := by
  let waits := Deferred.call ledger.depth code ledger.functions
  have inside := (((moves.note (.define ledger.functions)).defer waits).note .pass).note
    (.declaration ledger.functions)
  have same : other.functions = ledger.functions + moving.count := moves.functions
  rw [Ledger.call, Ledger.call, moves.depth flush, same]
  exact ⟨inside.log, inside.stack, inside.opened, by simp [Nat.add_right_comm]⟩

theorem add (content : Builder.Content) :
    Moves moving earlier (ledger.add content) (other.add content) := by
  cases content with
  | absent => exact moves
  | output kind body => exact moves.put flush kind body
  | statement code => exact (moves.bind code).note (.statement code)
  | block header =>
    have opened := (moves.bind header).note (.header header)
    have found := (opened.defer (.block ledger.depth)).note .pass
    rw [Ledger.add, Ledger.add, moves.depth flush]
    exact found
  | call code => exact moves.call flush code

theorem addTurn (turn : Builder.Turn) :
    Moves moving earlier (ledger.addTurn turn) (other.addTurn turn) := by
  obtain ⟨indent, tag, content, ends⟩ := turn
  cases tag with
  | none => exact moves.add flush content
  | some text =>
    have opened := (moves.openTag flush text).add flush content
    cases content with
    | absent =>
      cases ends with
      | true => exact moves.put flush .safe (text.start ++ text.stop)
      | false => exact opened
    | output kind body =>
      cases ends with
      | true => exact moves.oneLiner flush text kind body
      | false => exact opened
    | _ => cases ends <;> exact opened

theorem takeTurn (grows : StrictMono moving.widen) (turn : Builder.Turn) :
    Moves moving earlier (ledger.takeTurn turn) (other.takeTurn (turn.deepened moving.widen)) :=
  (moves.shift grows turn.indent).addTurn flush (turn.deepened moving.widen)

theorem takeTurns (grows : StrictMono moving.widen) (turns : List Builder.Turn) :
    Moves moving earlier (ledger.takeTurns turns)
      (other.takeTurns (turns.map (Builder.Turn.deepened moving.widen))) := by
  induction turns generalizing ledger other with
  | nil => exact moves
  | cons turn rest ih => exact ih (moves.takeTurn flush grows turn)

end Turns

end Moves

/-! ### What functions share -/

section Names

variable {keep : Event → Bool}

theorem flatMap_names_filter {log : List Event}
    (silent : ∀ event ∈ log, keep event = false → event.names = []) :
    (log.filter keep).flatMap Event.names = log.flatMap Event.names := by
  induction log with
  | nil => rfl
  | cons event rest ih =>
    obtain ⟨first, others⟩ := List.forall_mem_cons.mp silent
    by_cases kept : keep event = true
    next => rw [List.filter_cons_of_pos kept, List.flatMap_cons, List.flatMap_cons, ih others]
    next =>
      rw [List.filter_cons_of_neg kept, List.flatMap_cons, ih others,
        first (eq_false_of_ne_true kept), List.nil_append]

theorem knownAt_filter {before : List Event} (around : List Nat)
    (silent : ∀ event ∈ before, keep event = false → event.names = []) :
    knownAt (before.filter keep) around = knownAt before around := by
  have inside : ∀ event ∈ before.filter fun event => event.around.head?.all around.contains,
      keep event = false → event.names = [] :=
    fun event member => silent event (List.mem_filter.mp member).1
  have found := flatMap_names_filter inside
  rw [List.filter_filter] at found
  rw [knownAt, knownAt, List.filter_filter, ← found]
  congr 3
  funext event
  exact Bool.and_comm ..

theorem find?_filter {test : Event → Bool} {log : List Event}
    (failing : ∀ event ∈ log, keep event = false → test event = false) :
    (log.filter keep).find? test = log.find? test := by
  induction log with
  | nil => rfl
  | cons event rest ih =>
    obtain ⟨first, others⟩ := List.forall_mem_cons.mp failing
    by_cases kept : keep event = true
    next => rw [List.filter_cons_of_pos kept, List.find?_cons, List.find?_cons, ih others]
    next =>
      rw [List.filter_cons_of_neg kept, ih others, List.find?_cons_of_neg]
      simp [first (eq_false_of_ne_true kept)]

theorem takeWhile_filter {test : Event → Bool} {log : List Event}
    (failing : ∀ event ∈ log, keep event = false → test event = false) :
    ((log.filter keep).takeWhile fun event => !test event) =
      (log.takeWhile fun event => !test event).filter keep := by
  induction log with
  | nil => rfl
  | cons event rest ih =>
    obtain ⟨first, others⟩ := List.forall_mem_cons.mp failing
    by_cases kept : keep event = true
    next =>
      rw [List.filter_cons_of_pos kept, List.takeWhile_cons, List.takeWhile_cons, ih others]
      split
      next => rw [List.filter_cons_of_pos kept]
      next => rfl
    next =>
      rw [List.filter_cons_of_neg kept, ih others, List.takeWhile_cons_of_pos,
        List.filter_cons_of_neg kept]
      simp [first (eq_false_of_ne_true kept)]

/-- Events that bind nothing and define nothing have no part in what functions share. -/
theorem sharedOf_filter {log : List Event}
    (silent : ∀ event ∈ log, keep event = false → event.names = [] ∧ event.defined? = none)
    (number : Nat) : sharedOf (log.filter keep) number = sharedOf log number := by
  have recorded : recordedIn (log.filter keep) number = recordedIn log number := by
    have inside : ∀ event ∈ log.filter fun event => event.around.head? = some number,
        keep event = false → event.names = [] :=
      fun event member dropped => (silent event (List.mem_filter.mp member).1 dropped).1
    have found := flatMap_names_filter inside
    rw [List.filter_filter] at found
    rw [recordedIn, recordedIn, List.filter_filter, ← found]
    congr 2
    funext event
    exact Bool.and_comm ..
  have undefined : ∀ event ∈ log, keep event = false → event.defines number = false := by
    intro event member dropped
    simp [Event.defines, (silent event member dropped).2]
  have header := find?_filter undefined
  have before := takeWhile_filter undefined
  rw [sharedOf, sharedOf, recorded, knownTo, knownTo, header, before]
  congr 1
  apply knownAt_filter
  intro event member dropped
  exact (silent event ((List.takeWhile_sublist _).mem member) dropped).1

variable (moving : Moving)

theorem Moving.names_event (event : Event) : (moving.event event).names = event.names := by
  obtain ⟨level, around, entry⟩ := event
  cases entry <;> rfl

theorem Moving.defined?_event (event : Event) :
    (moving.event event).defined? = event.defined?.map (· + moving.count) := by
  obtain ⟨level, around, entry⟩ := event
  cases entry <;> rfl

theorem Moving.defines_event (event : Event) (number : Nat) :
    (moving.event event).defines (number + moving.count) = event.defines number := by
  rw [Event.defines, Event.defines, moving.defined?_event]
  cases event.defined? <;> simp

theorem recordedIn_map (log : List Event) (number : Nat) :
    recordedIn (log.map moving.event) (number + moving.count) = recordedIn log number := by
  rw [recordedIn, recordedIn, List.filter_map, List.flatMap_map]
  congr 1
  · funext event
    exact moving.names_event event
  · congr 1
    funext event
    simp [Moving.event, List.head?_map]

theorem knownAt_map (before : List Event) (around : List Nat) :
    knownAt (before.map moving.event) (around.map (· + moving.count)) = knownAt before around := by
  rw [knownAt, knownAt, List.filter_map, List.flatMap_map]
  congr 2
  · funext event
    exact moving.names_event event
  · congr 1
    funext event
    cases owner : event.around.head? <;> simp [Moving.event, List.head?_map, owner]

/-- The functions of a log share the same names under their new numbers. -/
theorem sharedOf_map (log : List Event) (number : Nat) :
    sharedOf (log.map moving.event) (number + moving.count) = sharedOf log number := by
  have same : Event.defines (number + moving.count) ∘ moving.event = Event.defines number := by
    funext event
    exact moving.defines_event event number
  have before : ((log.map moving.event).takeWhile fun event => !event.defines (number + moving.count))
      = (log.takeWhile fun event => !event.defines number).map moving.event := by
    rw [List.takeWhile_map]
    congr 2
    funext event
    rw [Function.comp_apply, moving.defines_event]
  have around : ((log.find? (Event.defines number)).map moving.event |>.map Event.around).getD [] =
      (((log.find? (Event.defines number)).map Event.around).getD []).map (· + moving.count) := by
    cases log.find? (Event.defines number) <;> rfl
  rw [sharedOf, sharedOf, recordedIn_map, knownTo, knownTo, before, List.find?_map, same, around,
    knownAt_map]

theorem sharedOf_told (log : List Event) : sharedOf (moving.told log) = sharedOf log := by
  funext number
  apply sharedOf_filter
  intro event _ dropped
  obtain ⟨level, around, entry⟩ := event
  cases entry with
  | deferred | released | shares => exact ⟨rfl, rfl⟩
  | _ => cases dropped

end Names

end Journal

end Stencil
