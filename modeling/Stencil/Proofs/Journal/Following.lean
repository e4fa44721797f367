import Stencil.Proofs.Builder.Stack
import Stencil.Proofs.Journal.Nesting

/-!
The books are kept in step with the builder: the log is that of the statements, those of closed
blocks and those of the blocks that are still open.
-/

set_option autoImplicit false

namespace Stencil

open Markup (boundNames)

open Journal

/-- What waits, as the books have it. -/
def Pending.deferred : Pending → Deferred
  | indent depth => .indent depth
  | endTag depth body => .endTag depth body
  | block depth _ _ => .block depth
  | call depth code number _ _ => .call depth code number

theorem Pending.depth_deferred (pending : Pending) : pending.deferred.depth = pending.depth := by
  cases pending <;> rfl

theorem Pending.isBlock_deferred (pending : Pending) :
    pending.deferred.isBlock = pending.isBlock := by
  cases pending <;> rfl

namespace Journal

/-- The place of the next statement. -/
def placeOf : List Pending → Place
  | [] => .top
  | .indent _ :: rest => placeOf rest
  | .endTag _ _ :: rest => placeOf rest
  | .block _ _ _ :: rest => (placeOf rest).deeper
  | .call _ _ number names _ :: rest => (placeOf rest).within names number

theorem level_placeOf (pending : List Pending) :
    (placeOf pending).level = 1 + pending.countP Pending.isBlock := by
  induction pending with
  | nil => rfl
  | cons top rest ih =>
    cases top <;>
      simp [placeOf, Place.deeper, Place.within, Pending.isBlock, List.countP_cons, ih] <;> omega

theorem around_placeOf (pending : List Pending) :
    (placeOf pending).around = (pending.map Pending.deferred).filterMap Deferred.number? := by
  induction pending with
  | nil => rfl
  | cons top rest ih =>
    cases top <;> simp [placeOf, Place.deeper, Place.within, Pending.deferred, Deferred.number?, ih,
      List.filterMap_cons]

theorem outer_placeOf (pending : List Pending) :
    (placeOf pending).outer = pending.flatMap Pending.names := by
  induction pending with
  | nil => rfl
  | cons top rest ih =>
    cases top <;> simp [placeOf, Place.deeper, Place.within, Pending.names, ih]

/-- The scopes that are open, given the names of the innermost one. -/
def scopesOf (names : List Text) : List Pending → List Scope
  | [] => [⟨names, none⟩]
  | .call depth code number outer _ :: rest =>
    ⟨names, some (.call depth code number)⟩ :: scopesOf outer rest
  | _ :: rest => scopesOf names rest

theorem names_scopesOf (names : List Text) (pending : List Pending) :
    (scopesOf names pending).flatMap Scope.names = names ++ pending.flatMap Pending.names := by
  induction pending generalizing names with
  | nil => simp [scopesOf]
  | cons top rest ih => cases top <;> simp [scopesOf, Pending.names, ih]

theorem closings_scopesOf (names : List Text) (pending : List Pending) :
    (scopesOf names pending).map Scope.closing =
      ((pending.map Pending.deferred).filter fun one => one.number?.isSome).map some ++ [none] := by
  induction pending generalizing names with
  | nil => rfl
  | cons top rest ih => cases top <;> simp [scopesOf, Pending.deferred, Deferred.number?, ih]

/-- A log of what has been written, given what waits, the statements and the names of the innermost
block and the number of functions. What was put on the stack stands between what is complete. -/
inductive Mirrors : List Pending → List Statement → List Text → List Event → Nat → Prop where
  | floor {body : List Statement} {log : List Event} {last : Nat}
      (nested : Nested .top givenNames 0 log body.reverse last) :
      Mirrors [] body (givenNames ++ Place.top.ownNames log) log last
  | indent {rest : List Pending} {before statements : List Statement} {own : List Text}
      {log inner : List Event} {first last : Nat} (depth : Nat)
      (below : Mirrors rest before own log first)
      (nested : Nested (placeOf rest) own first inner statements last) :
      Mirrors (.indent depth :: rest) (statements.reverse ++ before)
        (own ++ (placeOf rest).ownNames inner)
        (log ++ ([(placeOf rest).event (.deferred (.indent depth))] ++ inner)) last
  | endTag {rest : List Pending} {before statements : List Statement} {own : List Text}
      {log inner : List Event} {first last : Nat} (depth : Nat) (text : Builder.TagText)
      (below : Mirrors rest before own log first)
      (nested : Nested (placeOf rest) own first inner statements last) :
      Mirrors (.endTag depth text.stop :: rest)
        (statements.reverse ++ .line (.output ⟨.safe, text.start, depth⟩) :: before)
        (own ++ (placeOf rest).ownNames inner)
        (log ++ ([(placeOf rest).event (.output ⟨.safe, text.start, depth⟩),
          (placeOf rest).event (.deferred (.endTag depth text.stop))] ++ inner)) last
  | block {rest : List Pending} {before body : List Statement} {own : List Text}
      {log inner : List Event} {first last : Nat} (depth : Nat) (header : Text)
      (below : Mirrors rest before own log first)
      (nested : Nested (placeOf rest).deeper (own ++ boundNames header) first inner body.reverse
        last) :
      Mirrors (.block depth header before :: rest) body
        (own ++ boundNames header ++ (placeOf rest).ownNames inner)
        (log ++ ([(placeOf rest).event (.header header),
          (placeOf rest).event (.deferred (.block depth)),
          (placeOf rest).deeper.event .pass] ++ inner)) last
  | call {rest : List Pending} {before body : List Statement} {own : List Text}
      {log inner : List Event} {first last : Nat} (depth : Nat) (code : Text)
      (below : Mirrors rest before own log first)
      (nested : Nested ((placeOf rest).within own first) [] (first + 1) inner body.reverse last) :
      Mirrors (.call depth code first own before :: rest) body
        (((placeOf rest).within own first).ownNames inner)
        (log ++ ([(placeOf rest).event (.define first),
          (placeOf rest).event (.deferred (.call depth code first)),
          ((placeOf rest).within own first).event .pass,
          ((placeOf rest).within own first).event (.declaration first)] ++ inner)) last

namespace Mirrors

variable {pending rest : List Pending} {body : List Statement} {own : List Text}
  {log : List Event} {last : Nat}

/-- What is complete goes to what is on top. -/
theorem extend {events : List Event} {statements : List Statement} {next : Nat}
    (mirrors : Mirrors pending body own log last)
    (nested : Nested (placeOf pending) own last events statements next) :
    Mirrors pending (statements.reverse ++ body) (own ++ (placeOf pending).ownNames events)
      (log ++ events) next := by
  cases mirrors with
  | floor before =>
    have whole := before.append nested
    rw [← List.reverse_reverse statements, ← List.reverse_append] at whole
    have found := Mirrors.floor whole
    rwa [Place.ownNames_append, ← List.append_assoc] at found
  | indent depth below before =>
    have found := Mirrors.indent depth below (before.append nested)
    simpa [Place.ownNames_append, placeOf] using found
  | endTag depth text below before =>
    have found := Mirrors.endTag depth text below (before.append nested)
    simpa [Place.ownNames_append, placeOf] using found
  | block depth header below before =>
    have whole := before.append nested
    rw [← List.reverse_reverse statements, ← List.reverse_append] at whole
    have found := Mirrors.block depth header below whole
    simpa [Place.ownNames_append, Place.ownNames_deeper, placeOf] using found
  | call depth code below before =>
    have whole := before.append nested
    rw [← List.reverse_reverse statements, ← List.reverse_append] at whole
    have found := Mirrors.call depth code below whole
    simpa [Place.ownNames_append, placeOf] using found

theorem extend_quiet {events : List Event} {statements : List Statement} {next : Nat}
    (mirrors : Mirrors pending body own log last)
    (nested : Nested (placeOf pending) own last events statements next)
    (quiet : (placeOf pending).ownNames events = []) :
    Mirrors pending (statements.reverse ++ body) own (log ++ events) next := by
  have found := mirrors.extend nested
  rwa [quiet, List.append_nil] at found

/-! ### Closing what is on top -/

theorem close_indent {depth : Nat} (mirrors : Mirrors (.indent depth :: rest) body own log last) :
    Mirrors rest body own (log ++ [(placeOf rest).event (.released (.indent depth))]) last := by
  cases mirrors with
  | indent depth below nested =>
    have found := below.extend (nested.indent depth)
    simpa [Place.ownNames, Place.event, Event.names] using found

theorem close_endTag {depth : Nat} {stop : Text}
    (mirrors : Mirrors (.endTag depth stop :: rest) body own log last) :
    Mirrors rest (.line (.output ⟨.safe, stop, depth⟩) :: body) own
      (log ++ [(placeOf rest).event (.released (.endTag depth stop))]) last := by
  cases mirrors with
  | endTag depth text below nested =>
    have found := below.extend (nested.tag depth text)
    simpa [Place.ownNames, Place.event, Event.names] using found

theorem close_block {depth : Nat} {header : Text} {before : List Statement}
    (mirrors : Mirrors (.block depth header before :: rest) body own log last) :
    Mirrors rest (.block header body.reverse :: before) own
      (log ++ [(placeOf rest).event (.released (.block depth))]) last := by
  cases mirrors with
  | block depth header below nested =>
    have found := below.extend (nested.block depth header)
    simpa [Place.ownNames, Place.event, Event.names, Place.deeper] using found

theorem close_call {depth number : Nat} {code : Text} {names : List Text}
    {before : List Statement}
    (mirrors : Mirrors (.call depth code number names before :: rest) body own log last) :
    Mirrors rest
      (.control (Builder.callStatement depth code number) ::
        .function number (Builder.sharedNames own (names ++ (placeOf rest).outer)) body.reverse ::
        before)
      names
      (log ++ [((placeOf rest).within names number).event
          (.shares number (Builder.sharedNames own (names ++ (placeOf rest).outer))),
        (placeOf rest).event (.released (.call depth code number))])
      last := by
  cases mirrors with
  | @call _ _ _ _ _ inner _ _ depth code below nested =>
    have kept := Place.ownNames_within nested.holds
    have found := below.extend_quiet (nested.call depth code rfl) (by
      rw [Place.ownNames_append, Place.ownNames_append, kept,
        Place.ownNames_quiet (by simp [Event.names, Place.event]),
        Place.ownNames_quiet (by simp [Event.names, Place.event])]
      rfl)
    simpa using found

end Mirrors

/-! ### In step -/

/-- Whether the books are those of the builder. -/
structure Follows (ledger : Ledger) (builder : Builder) : Prop where
  stack : ledger.stack = builder.pending.map Pending.deferred
  opened : ledger.opened = builder.pending.countP Pending.isBlock
  functions : ledger.functions = builder.calls
  scopes : ledger.scopes = scopesOf builder.names builder.pending
  rises : Builder.Rises builder.pending
  mirrors : Mirrors builder.pending builder.body builder.names ledger.log builder.calls

theorem follows_initial : Follows .initial .initial where
  stack := rfl
  opened := rfl
  functions := rfl
  scopes := rfl
  rises := .nil
  mirrors := .floor (.nothing ..)

namespace Follows

variable {ledger : Ledger} {builder next : Builder}

theorem depth (follows : Follows ledger builder) : ledger.depth = builder.depth := by
  rw [Ledger.depth, follows.stack, Builder.depth]
  cases builder.pending with
  | nil => rfl
  | cons top rest => simp [Pending.depth_deferred]

/-- An entry is written where the next statement stands. -/
theorem log_note (follows : Follows ledger builder) (entry : Entry) :
    (ledger.note entry).log = ledger.log ++ [(placeOf builder.pending).event entry] := by
  simp only [Ledger.note, Ledger.around, follows.stack, follows.opened, Place.event,
    level_placeOf, around_placeOf]

/-- Statements that are complete where they stand leave what waits as it is. -/
theorem extend (follows : Follows ledger builder) {events : List Event}
    {statements : List Statement} {later : Ledger}
    (nested : Nested (placeOf builder.pending) builder.names builder.calls events statements
      builder.calls)
    (quiet : (placeOf builder.pending).ownNames events = [])
    (same : later = { ledger with log := ledger.log ++ events }) :
    Follows later { builder with body := statements.reverse ++ builder.body } := by
  subst same
  exact ⟨follows.stack, follows.opened, follows.functions, follows.scopes, follows.rises,
    follows.mirrors.extend_quiet nested quiet⟩

theorem note_eq (follows : Follows ledger builder) (entry : Entry) :
    ledger.note entry =
      { ledger with log := ledger.log ++ [(placeOf builder.pending).event entry] } := by
  rw [← follows.log_note]
  rfl

theorem put (follows : Follows ledger builder) (kind : OutputKind) (body : Text) :
    Follows (ledger.put kind body) (builder.emitLine kind body) := by
  refine follows.extend (.output _ _ _ ⟨kind, body, builder.depth⟩) ?_ ?_
  · rw [Place.ownNames_event]
    rfl
  · rw [Ledger.put, follows.note_eq, follows.depth]

theorem oneLiner (follows : Follows ledger builder) (text : Builder.TagText) (kind : OutputKind)
    (body : Text) :
    Follows (ledger.oneLiner text kind body)
      (builder.emitLine .expression (Builder.fused text kind body)) := by
  refine follows.extend (.oneLiner _ _ _ builder.depth text kind body) ?_ ?_
  · exact Place.ownNames_quiet (by simp [Event.names, Place.event])
  · simp only [Ledger.oneLiner, Ledger.defer, Ledger.drop, Ledger.note, Ledger.around,
      follows.stack, follows.opened, follows.depth, Place.event, level_placeOf, around_placeOf,
      Deferred.isBlock, List.append_assoc, Bool.false_eq_true, if_false]
    rfl

theorem rises_push {pending : List Pending} {one : Pending} (rises : Builder.Rises pending)
    (above : ∀ top ∈ pending.head?, top.depth ≤ one.depth) : Builder.Rises (one :: pending) := by
  refine List.pairwise_cons.mpr ⟨fun below member => ?_, rises⟩
  cases pending with
  | nil => cases member
  | cons top rest =>
    have bound := above top rfl
    rcases List.mem_cons.mp member with rfl | deep
    · exact bound
    · exact Nat.le_trans ((List.pairwise_cons.mp rises).1 below deep) bound

theorem head_le_depth (builder : Builder) :
    ∀ top ∈ builder.pending.head?, top.depth ≤ builder.depth := by
  rw [Builder.depth]
  cases builder.pending with
  | nil => simp
  | cons top rest => simp

/-- What is put on the stack is written where the next statement stands. -/
theorem log_defer (follows : Follows ledger builder) (one : Deferred) :
    (ledger.defer one).log = ledger.log ++ [(placeOf builder.pending).event (.deferred one)] :=
  follows.log_note _

theorem openTag (follows : Follows ledger builder) (text : Builder.TagText) :
    Follows (ledger.openTag text) (builder.openTag text) := by
  have put := follows.put .safe text.start
  exact {
    stack := by
      rw [Ledger.openTag, Ledger.defer, follows.depth]
      exact congrArg (_ :: ·) follows.stack
    opened := put.opened
    functions := put.functions
    scopes := put.scopes
    rises := rises_push follows.rises (head_le_depth builder)
    mirrors := by
      have found := Mirrors.endTag builder.depth text follows.mirrors (.nil ..)
      rw [Place.ownNames_nil, List.append_nil, List.append_nil] at found
      rw [Ledger.openTag, put.log_defer, Ledger.put, follows.log_note, follows.depth,
        List.append_assoc]
      exact found }

theorem push_indent (follows : Follows ledger builder) {depth : Nat}
    (above : ∀ top ∈ builder.pending.head?, top.depth ≤ depth) :
    Follows (ledger.defer (.indent depth)) (builder.push (.indent depth)) where
  stack := congrArg (_ :: ·) follows.stack
  opened := follows.opened
  functions := follows.functions
  scopes := follows.scopes
  rises := rises_push follows.rises above
  mirrors := by
    have found := Mirrors.indent depth follows.mirrors (.nil ..)
    rw [Place.ownNames_nil, List.append_nil, List.append_nil] at found
    rw [follows.log_defer]
    exact found

theorem scopesOf_bind (names more : List Text) (pending : List Pending) :
    scopesOf (names ++ more) pending = match scopesOf names pending with
      | [] => []
      | scope :: outer => { scope with names := scope.names ++ more } :: outer := by
  induction pending with
  | nil => rfl
  | cons top rest ih =>
    cases top with
    | call => rfl
    | _ => exact ih

/-- A statement binds its names in the innermost function. -/
theorem scopes_bind (follows : Follows ledger builder) {code : Text} {names : List Text}
    (bound : Script.assignedNames code = .ok names) :
    (ledger.bind code).scopes = scopesOf (builder.names ++ names) builder.pending := by
  rw [scopesOf_bind, ← follows.scopes, ← Builder.boundNames_eq bound]
  rfl

theorem statement (follows : Follows ledger builder) {code : Text}
    (added : builder.add (.statement code) = .ok next) :
    Follows ((ledger.bind code).note (.statement code)) next := by
  obtain ⟨names, bound, rfl⟩ := Builder.add_statement added
  exact {
    stack := follows.stack
    opened := follows.opened
    functions := follows.functions
    scopes := follows.scopes_bind bound
    rises := follows.rises
    mirrors := by
      have found := follows.mirrors.extend (.statement _ _ _ code)
      rw [Place.ownNames_event, ← follows.log_note] at found
      rw [← Builder.boundNames_eq bound]
      exact found }

theorem block (follows : Follows ledger builder) {header : Text}
    (added : builder.add (.block header) = .ok next) :
    Follows ((((ledger.bind header).note (.header header)).defer (.block ledger.depth)).note .pass)
      next := by
  obtain ⟨names, bound, rfl⟩ := Builder.add_block added
  exact {
    stack := by
      rw [follows.depth]
      exact congrArg (_ :: ·) follows.stack
    opened := by
      simp [Ledger.note, Ledger.defer, Ledger.bind, Deferred.isBlock, Pending.isBlock,
        List.countP_cons, follows.opened]
    functions := follows.functions
    scopes := follows.scopes_bind bound
    rises := rises_push follows.rises (head_le_depth builder)
    mirrors := by
      have found := Mirrors.block builder.depth header follows.mirrors (.nothing ..)
      rw [Place.ownNames_nil, List.append_nil, List.append_nil, Builder.boundNames_eq bound] at found
      have log : ((((ledger.bind header).note (.header header)).defer
          (.block ledger.depth)).note .pass).log = ledger.log ++
            [(placeOf builder.pending).event (.header header),
              (placeOf builder.pending).event (.deferred (.block builder.depth)),
              (placeOf builder.pending).deeper.event .pass] := by
        simp [Ledger.note, Ledger.defer, Ledger.bind, Ledger.around, Deferred.isBlock,
          Deferred.number?, follows.stack, follows.opened, follows.depth, Place.event, Place.deeper,
          level_placeOf, around_placeOf, List.filterMap_cons, Nat.add_assoc]
      rw [log]
      exact found }

theorem call (follows : Follows ledger builder) (code : Text)
    (added : builder.add (.call code) = .ok next) : Follows (ledger.call code) next := by
  cases added
  exact {
    stack := by
      rw [Ledger.call, follows.depth, follows.functions]
      exact congrArg (_ :: ·) follows.stack
    opened := by
      simp [Ledger.call, Ledger.note, Ledger.defer, Deferred.isBlock, Pending.isBlock,
        List.countP_cons, follows.opened]
    functions := congrArg (· + 1) follows.functions
    scopes := by
      rw [Ledger.call, follows.depth, follows.functions]
      exact congrArg (_ :: ·) follows.scopes
    rises := rises_push follows.rises (head_le_depth builder)
    mirrors := by
      have found := Mirrors.call builder.depth code follows.mirrors (.nothing ..)
      rw [Place.ownNames_nil, List.append_nil] at found
      have log : (ledger.call code).log = ledger.log ++
          [(placeOf builder.pending).event (.define builder.calls),
            (placeOf builder.pending).event (.deferred (.call builder.depth code builder.calls)),
            ((placeOf builder.pending).within builder.names builder.calls).event .pass,
            ((placeOf builder.pending).within builder.names builder.calls).event
              (.declaration builder.calls)] := by
        simp [Ledger.call, Ledger.note, Ledger.defer, Ledger.around, Deferred.isBlock,
          Deferred.number?, follows.stack, follows.opened, follows.depth, follows.functions,
          Place.event, Place.within, level_placeOf, around_placeOf, Nat.add_assoc]
      rw [log]
      exact found }

theorem add (follows : Follows ledger builder) {content : Builder.Content}
    (added : builder.add content = .ok next) : Follows (ledger.add content) next := by
  cases content with
  | absent =>
    cases added
    exact follows
  | output kind body =>
    cases added
    exact follows.put kind body
  | statement code => exact follows.statement added
  | block header => exact follows.block added
  | call code => exact follows.call code added

/-! ### Closing -/

theorem leave_other {one : Deferred} (other : one.number? = none) :
    ledger.leave one = ledger := by
  rw [Ledger.leave, other]
  cases ledger.scopes <;> rfl

theorem leave_keeps (ledger : Ledger) (one : Deferred) :
    (ledger.leave one).opened = ledger.opened ∧
      (ledger.leave one).functions = ledger.functions := by
  rw [Ledger.leave]
  split
  next =>
    split
    next => exact ⟨rfl, rfl⟩
    next => exact ⟨rfl, rfl⟩
  next => exact ⟨rfl, rfl⟩

/-- Something released that closes no function is one entry. -/
theorem log_release (follows : Follows ledger builder) {top : Pending} {rest : List Pending}
    (same : builder.pending = top :: rest) (other : top.deferred.number? = none) :
    (ledger.release top.deferred (rest.map Pending.deferred)).log =
      ledger.log ++ [(placeOf rest).event (.released top.deferred)] := by
  rw [Ledger.release, leave_other other]
  simp only [Ledger.note, Ledger.drop, Ledger.around, follows.opened, same, Place.event,
    level_placeOf, around_placeOf, List.countP_cons, Pending.isBlock_deferred]
  cases top.isBlock <;> simp

theorem opened_release (follows : Follows ledger builder) {top : Pending} {rest : List Pending}
    (same : builder.pending = top :: rest) :
    (ledger.release top.deferred (rest.map Pending.deferred)).opened =
      rest.countP Pending.isBlock := by
  simp only [Ledger.release, Ledger.note, Ledger.drop, (leave_keeps ledger _).1, follows.opened,
    same, List.countP_cons, Pending.isBlock_deferred]
  cases top.isBlock <;> simp

/-- The end of a function, whose declaration is filled in before. -/
theorem leave_call (follows : Follows ledger builder) {depth number : Nat} {code : Text}
    {names : List Text} {before : List Statement} {rest : List Pending}
    (same : builder.pending = .call depth code number names before :: rest) :
    ledger.leave (.call depth code number) =
      { ledger with
        scopes := scopesOf names rest
        log := ledger.log ++ [((placeOf rest).within names number).event
          (.shares number (Builder.sharedNames builder.names
            (names ++ rest.flatMap Pending.names)))] } := by
  have scopes := follows.scopes
  rw [same, scopesOf] at scopes
  have place : (placeOf builder.pending) = (placeOf rest).within names number := by
    rw [same, placeOf]
  rw [Ledger.leave, scopes]
  simp only [Deferred.number?, if_true, names_scopesOf]
  have noted := follows.note_eq (.shares number (Builder.sharedNames builder.names
    (names ++ rest.flatMap Pending.names)))
  rw [place] at noted
  exact congrArg (fun later : Ledger => { later with scopes := scopesOf names rest }) noted

theorem release (follows : Follows ledger builder) {top : Pending} {rest : List Pending}
    (same : builder.pending = top :: rest) :
    Follows (ledger.release top.deferred (rest.map Pending.deferred))
      (builder.closeTop rest top) := by
  have opened := follows.opened_release same
  have functions : (ledger.release top.deferred (rest.map Pending.deferred)).functions =
      builder.calls := (leave_keeps ledger _).2.trans follows.functions
  have rises : Builder.Rises rest := by
    have all := follows.rises
    rw [same] at all
    exact (List.pairwise_cons.mp all).2
  have mirrors := follows.mirrors
  have scopes := follows.scopes
  rw [same] at mirrors scopes
  have kept (other : top.deferred.number? = none) :
      (ledger.release top.deferred (rest.map Pending.deferred)).scopes = ledger.scopes := by
    rw [Ledger.release, leave_other other]
    rfl
  cases top with
  | indent depth =>
    refine ⟨rfl, opened, functions, (kept rfl).trans scopes, rises, ?_⟩
    rw [follows.log_release same rfl]
    exact mirrors.close_indent
  | endTag depth body =>
    refine ⟨rfl, opened, functions, (kept rfl).trans scopes, rises, ?_⟩
    rw [follows.log_release same rfl]
    exact mirrors.close_endTag
  | block depth header before =>
    refine ⟨rfl, opened, functions, (kept rfl).trans scopes, rises, ?_⟩
    rw [follows.log_release same rfl]
    exact mirrors.close_block
  | call depth code number names before =>
    have left := follows.leave_call same
    refine ⟨rfl, opened, functions, ?_, rises, ?_⟩
    · rw [Ledger.release, Pending.deferred, left]
      rfl
    · have found := mirrors.close_call
      rw [outer_placeOf] at found
      have log : (ledger.release (Deferred.call depth code number)
          (rest.map Pending.deferred)).log = ledger.log ++
            [((placeOf rest).within names number).event
                (.shares number (Builder.sharedNames builder.names
                  (names ++ rest.flatMap Pending.names))),
              (placeOf rest).event (.released (.call depth code number))] := by
        rw [Ledger.release, left]
        simp [Ledger.note, Ledger.drop, Ledger.around, Deferred.isBlock, follows.opened, same,
          Place.event, level_placeOf, around_placeOf, List.countP_cons, Pending.isBlock]
      rw [Pending.deferred, log]
      exact found

theorem flush (follows : Follows ledger builder) (downTo : Nat) :
    Follows (ledger.flush downTo) (builder.closeTo downTo) := by
  suffices every : ∀ (pending : List Pending) (ledger : Ledger) (builder : Builder),
      Follows ledger builder → builder.pending = pending →
      Follows (Ledger.flushStack downTo (pending.map Pending.deferred) ledger)
        (Builder.closeStack downTo pending builder) by
    have found := every builder.pending ledger builder follows rfl
    rwa [← follows.stack] at found
  intro pending
  induction pending with
  | nil =>
    intro ledger builder follows same
    obtain ⟨body, names, pending, calls⟩ := builder
    cases same
    exact follows
  | cons top rest ih =>
    intro ledger builder follows same
    rw [List.map_cons, Ledger.flushStack, Builder.closeStack, Pending.depth_deferred]
    by_cases closes : downTo ≤ top.depth
    next =>
      rw [if_pos closes, if_pos closes]
      refine ih _ _ (follows.release same) ?_
      cases top <;> rfl
    next =>
      rw [if_neg closes, if_neg closes, ← same]
      exact follows

/-! ### Turns -/

theorem shift (follows : Follows ledger builder) (indent : Option Nat) :
    Follows (ledger.shift indent) (builder.shift indent) := by
  cases indent with
  | none => exact follows
  | some depth =>
    refine (follows.flush depth).push_indent fun top first => ?_
    have member := List.mem_of_mem_head? first
    rw [Builder.pending_closeTo follows.rises] at member
    have bound : top.depth < depth := by simpa using (List.mem_filter.mp member).2
    exact Nat.le_of_lt bound

theorem addTurn (follows : Follows ledger builder) {turn : Builder.Turn}
    (added : builder.addTurn turn = .ok next) : Follows (ledger.addTurn turn) next := by
  obtain ⟨indent, tag, content, ends⟩ := turn
  cases tag with
  | none => exact follows.add added
  | some text =>
    have opened {next : Builder} (added : (builder.openTag text).add content = .ok next) :
        Follows ((ledger.openTag text).add content) next := (follows.openTag text).add added
    cases content with
    | absent =>
      cases ends with
      | true =>
        cases added
        exact follows.put .safe (text.start ++ text.stop)
      | false => exact opened added
    | output kind body =>
      cases ends with
      | true =>
        cases added
        exact follows.oneLiner text kind body
      | false => exact opened added
    | statement code => cases ends <;> exact opened added
    | block header => cases ends <;> exact opened added
    | call code => cases ends <;> exact opened added

theorem takeTurn (follows : Follows ledger builder) {turn : Builder.Turn}
    (taken : builder.takeTurn turn = .ok next) : Follows (ledger.takeTurn turn) next :=
  (follows.shift turn.indent).addTurn taken

theorem takeTurns (follows : Follows ledger builder) {turns : List Builder.Turn}
    (taken : builder.takeTurns turns = .ok next) : Follows (ledger.takeTurns turns) next := by
  induction turns generalizing ledger builder with
  | nil =>
    cases taken
    exact follows
  | cons turn rest ih =>
    obtain ⟨between, first, later⟩ := Outcome.bind_eq_ok.mp taken
    exact ih (follows.takeTurn first) later

/-- With nothing left open the log is that of the whole body. -/
theorem nested (follows : Follows ledger builder) (empty : builder.pending = []) :
    Nested .top givenNames 0 ledger.log builder.body.reverse ledger.functions := by
  have mirrors := follows.mirrors
  rw [empty] at mirrors
  rw [follows.functions]
  generalize builder.names = names at mirrors
  cases mirrors with
  | floor nested => exact nested

end Follows

/-- The books of turns, with all that is open closed in the end. -/
def Ledger.ofTurns (turns : List Builder.Turn) : Ledger := (initial.takeTurns turns).flush 0

theorem follows_finish {turns : List Builder.Turn} {last : Builder}
    (taken : Builder.initial.takeTurns turns = .ok last) :
    Follows (Ledger.ofTurns turns) (last.closeTo 0) ∧ (last.closeTo 0).pending = [] := by
  have follows := follows_initial.takeTurns taken
  refine ⟨follows.flush 0, ?_⟩
  rw [Builder.pending_closeTo follows.rises]
  exact List.filter_eq_nil_iff.mpr fun one _ => by simp

/-- The log of a program. -/
theorem nested_program {tokens : List Token} {contextType : Text} {program : Program}
    (compiled : Program.ofTokens tokens contextType = .ok program) :
    ∃ turns last, Program.turns tokens = .ok turns ∧ Builder.initial.takeTurns turns = .ok last ∧
      Nested .top givenNames 0 (Ledger.ofTurns turns).log program.body
        (Ledger.ofTurns turns).functions := by
  obtain ⟨turns, last, read, taken, body⟩ := Program.ofTokens_ok compiled
  obtain ⟨follows, empty⟩ := follows_finish taken
  exact ⟨turns, last, read, taken, body ▸ follows.nested empty⟩

end Journal

end Stencil
