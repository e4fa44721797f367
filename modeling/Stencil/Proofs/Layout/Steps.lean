import Stencil.Proofs.Journal.Nesting
import Stencil.Proofs.Layout.Built

/-!
How deep each line of code stands beside the one before it. Code goes deeper behind a header only,
by one level, and what it finds there is a statement that does nothing.
-/

set_option autoImplicit false

namespace Stencil

theorem Text.not_allBlank {text : Text} {c : Char} (member : c ∈ text) (inked : isBlank c = false) :
    allBlank text = false := by
  rw [allBlank, List.all_eq_false]
  exact ⟨c, member, by simp [inked]⟩

theorem Text.not_allBlank_colon {text : Text} (colon : text.getLast? = some ':') :
    allBlank text = false :=
  not_allBlank (List.mem_of_getLast? colon) (by decide)

namespace Journal

/-- What the header says that an event writes. -/
def Event.header? (event : Event) : Option Text :=
  match event.entry with
  | .header code => some code
  | .define number => some (Statement.blockHeader number)
  | _ => none

/-- Whether an event writes the header of a function, or one that ends in a colon. -/
def Event.IsHeader (event : Event) (code : Text) : Prop :=
  event.entry = .header code ∧ code.getLast? = some ':' ∨
    ∃ number, event.entry = .define number ∧ code = Statement.blockHeader number

theorem not_allBlank_blockHeader (number : Nat) :
    Text.allBlank (Statement.blockHeader number) = false :=
  Text.not_allBlank (c := 'd') (List.mem_cons_self ..) (by decide)

theorem Event.IsHeader.inked {event : Event} {code : Text} (header : event.IsHeader code) :
    Text.allBlank code = false := by
  rcases header with ⟨_, colon⟩ | ⟨number, _, rfl⟩
  · exact Text.not_allBlank_colon colon
  · exact not_allBlank_blockHeader number

theorem Event.lines_header {event : Event} {code : Text} (header : event.header? = some code)
    (shared : Nat → List Text) : event.lines shared = [⟨event.level, code⟩] := by
  unfold Event.header? at header
  split at header
  next written =>
    cases header
    rw [Event.lines, written]
  next written =>
    cases header
    rw [Event.lines, written]
  next => cases header

/-- An event writes one line where it stands, or none. -/
theorem Event.lines_cases (event : Event) (shared : Nat → List Text) :
    event.lines shared = [] ∨ ∃ content, event.lines shared = [⟨event.level, content⟩] := by
  unfold Event.lines
  split
  case h_6 =>
    unfold Statement.sharing
    split
    next => exact .inl rfl
    next => exact .inr ⟨_, rfl⟩
  case h_12 => exact .inl rfl
  case h_13 => exact .inl rfl
  all_goals exact .inr ⟨_, rfl⟩

/-! ### Lines and their events -/

/-- The lines that say something, each with the event that it stands for. -/
def written (shared : Nat → List Text) (events : List Event) : List (Event × CodeLine) :=
  events.flatMap fun event => (visible (event.lines shared)).map fun line => (event, line)

variable {shared : Nat → List Text} {event : Event} {line : CodeLine}

theorem written_append (left right : List Event) :
    written shared (left ++ right) = written shared left ++ written shared right :=
  List.flatMap_append

theorem written_cons (event : Event) (rest : List Event) :
    written shared (event :: rest) = written shared [event] ++ written shared rest :=
  written_append [event] rest

theorem lines_written (events : List Event) :
    (written shared events).map Prod.snd = visible (events.flatMap (Event.lines shared)) := by
  induction events with
  | nil => rfl
  | cons event rest ih =>
    rw [List.flatMap_cons, visible_append, ← ih]
    simp [written, Function.comp_def]

theorem written_line (same : event.lines shared = [line])
    (inked : Text.allBlank line.content = false) : written shared [event] = [(event, line)] := by
  simp [written, visible, same, inked]

theorem written_blank (blank : ∀ line ∈ event.lines shared, Text.allBlank line.content = true) :
    written shared [event] = [] := by
  have none : visible (event.lines shared) = [] :=
    List.filter_eq_nil_iff.mpr fun line member => by simp [blank line member]
  simp [written, none]

/-! ### Levels -/

/-- How a line goes on behind another. -/
def Joins (one next : Event × CodeLine) : Prop :=
  match one.1.header? with
  | some _ => next.2 = ⟨one.2.level + 1, "pass".toList⟩
  | none => next.2.level ≤ one.2.level

theorem Joins.le {one next : Event × CodeLine} (joins : Joins one next) :
    next.2.level ≤ one.2.level + 1 := by
  unfold Joins at joins
  split at joins
  next => rw [joins]
  next => exact Nat.le_succ_of_le joins

/-- Lines of code that begin at a level and stay there or deeper, and all of whose headers have
something under them. -/
structure Stands (level : Nat) (lines : List (Event × CodeLine)) : Prop where
  chain : lines.IsChain Joins
  first : ∀ line ∈ lines.head?, line.2.level = level
  above : ∀ line ∈ lines, level ≤ line.2.level
  last : ∀ line ∈ lines.getLast?, line.1.header? = none

variable {level : Nat} {left right inner : List (Event × CodeLine)}

theorem stands_nil (level : Nat) : Stands level [] :=
  ⟨.nil, by simp, by simp, by simp⟩

theorem stands_line (line : CodeLine) (plain : event.header? = none) :
    Stands line.level [(event, line)] :=
  ⟨.singleton _, by simp, by simp, by simpa using plain⟩

theorem Stands.append (before : Stands level left) (after : Stands level right) :
    Stands level (left ++ right) where
  chain := by
    refine List.isChain_append.mpr ⟨before.chain, after.chain, fun one ends next begins => ?_⟩
    have deep := before.above one (List.mem_of_getLast? ends)
    rw [Joins, before.last one ends, after.first next begins]
    exact deep
  first := by
    intro line member
    rw [List.head?_append] at member
    cases start : left.head? with
    | none =>
      rw [start] at member
      exact after.first line member
    | some first =>
      rw [start] at member
      cases member
      exact before.first _ start
  above := List.forall_mem_append.mpr ⟨before.above, after.above⟩
  last := by
    intro line member
    rw [List.getLast?_append] at member
    cases stop : right.getLast? with
    | none =>
      rw [stop] at member
      exact before.last line member
    | some last =>
      rw [stop] at member
      cases member
      exact after.last _ stop

/-- A line deeper than the one before it stands behind a header. -/
theorem Stands.deeper {one next : Event × CodeLine}
    (stands : Stands level (left ++ one :: next :: right)) (less : one.2.level < next.2.level) :
    one.1.header?.isSome = true := by
  obtain ⟨joins, _⟩ := List.isChain_cons_cons.mp (List.isChain_append.mp stands.chain).2.1
  unfold Joins at joins
  cases header : one.1.header? with
  | some code => rfl
  | none =>
    rw [header] at joins
    exact absurd less (Nat.not_lt.mpr joins)

theorem Stands.followed {one : Event × CodeLine} (stands : Stands level (left ++ one :: right))
    (opens : one.1.header?.isSome = true) :
    ∃ pass rest, right = (pass, ⟨one.2.level + 1, "pass".toList⟩) :: rest := by
  obtain ⟨code, header⟩ := Option.isSome_iff_exists.mp opens
  cases right with
  | nil =>
    have last := stands.last one (by simp)
    rw [header] at last
    cases last
  | cons next rest =>
    obtain ⟨joins, _⟩ := List.isChain_cons_cons.mp (List.isChain_append.mp stands.chain).2.1
    rw [Joins, header] at joins
    exact ⟨next.1, rest, by rw [← joins]⟩

/-! ### Logs -/

variable {place : Place} {own : List Text} {first last : Nat} {events : List Event}
  {statements : List Statement}

/-- What writes no header stands where it is. -/
theorem stands_plain (plain : ∀ event ∈ events, event.level = level ∧ event.header? = none) :
    Stands level (written shared events) := by
  induction events with
  | nil => exact stands_nil _
  | cons event rest ih =>
    obtain ⟨⟨rfl, quiet⟩, others⟩ := List.forall_mem_cons.mp plain
    have here : Stands event.level (written shared [event]) := by
      rcases event.lines_cases shared with none | ⟨content, one⟩
      · rw [written_blank (by simp [none])]
        exact stands_nil _
      · cases blank : Text.allBlank content with
        | true =>
          rw [written_blank (by simp [one, blank])]
          exact stands_nil _
        | false =>
          rw [written_line one blank]
          exact stands_line ⟨event.level, content⟩ quiet
    rw [written_cons]
    exact here.append (ih others)

/-- A header, the statement that does nothing and the rest of the block. -/
theorem written_block {header waits pass : Event} {one : Deferred} {code : Text}
    (opens : header.header? = some code) (inked : Text.allBlank code = false)
    (put : waits.entry = .deferred one) (nothing : pass.entry = .pass)
    (deeper : pass.level = header.level + 1) (rest : List Event) :
    written shared (header :: waits :: pass :: rest) =
      (header, ⟨header.level, code⟩) :: (pass, ⟨header.level + 1, "pass".toList⟩) ::
        written shared rest := by
  have first : written shared [header] = [(header, ⟨header.level, code⟩)] :=
    written_line (Event.lines_header opens shared) inked
  have second : written shared [waits] = [] := written_blank (by simp [Event.lines, put])
  have third : written shared [pass] = [(pass, ⟨header.level + 1, "pass".toList⟩)] :=
    written_line (by rw [Event.lines, nothing, deeper])
      (show Text.allBlank "pass".toList = false by decide)
  rw [written_cons, written_cons waits, written_cons pass, first, second, third]
  rfl

theorem stands_block (header waits pass : Event) {one : Deferred} {code : Text}
    (opens : header.header? = some code) (inked : Text.allBlank code = false)
    (put : waits.entry = .deferred one) (nothing : pass.entry = .pass)
    (deeper : pass.level = header.level + 1)
    (inside : Stands (header.level + 1) (written shared events)) :
    Stands header.level (written shared (header :: waits :: pass :: events)) := by
  have plain : pass.header? = none := by rw [Event.header?, nothing]
  have body : Stands (header.level + 1)
      ((pass, ⟨header.level + 1, "pass".toList⟩) :: written shared events) :=
    (stands_line ⟨header.level + 1, "pass".toList⟩ plain).append inside
  rw [written_block opens inked put nothing deeper]
  refine ⟨List.isChain_cons_cons.mpr ⟨?_, body.chain⟩, by simp, ?_, ?_⟩
  · rw [Joins, opens]
  · refine List.forall_mem_cons.mpr ⟨Nat.le_refl _, fun line member => ?_⟩
    exact Nat.le_of_succ_le (body.above line member)
  · rw [List.getLast?_cons_cons]
    exact body.last

/-- A log goes deeper behind its headers and nowhere else. -/
theorem Nested.stands (nested : Nested place own first events statements last)
    (onLines : ∀ statement ∈ statements, statement.OnLines) :
    Stands place.level (written shared events) := by
  induction nested with
  | nil => exact stands_nil _
  | append _ _ before after =>
    obtain ⟨left, right⟩ := List.forall_mem_append.mp onLines
    rw [written_append]
    exact (before left).append (after right)
  | output => exact stands_plain (by simp [Place.event, Event.header?])
  | statement => exact stands_plain (by simp [Place.event, Event.header?])
  | oneLiner => exact stands_plain (by simp [Place.event, Event.header?])
  | indent _ _ ih =>
    rw [written_append, written_append]
    exact ((stands_plain (by simp [Place.event, Event.header?])).append (ih onLines)).append
      (stands_plain (by simp [Place.event, Event.header?]))
  | tag _ _ _ ih =>
    obtain ⟨before, _⟩ := List.forall_mem_append.mp onLines
    rw [written_append, written_append]
    exact ((stands_plain (by simp [Place.event, Event.header?])).append
      (ih (List.forall_mem_append.mp before).2)).append
      (stands_plain (by simp [Place.event, Event.header?]))
  | @block place _ _ _ inner _ depth header _ ih =>
    cases List.forall_mem_singleton.mp onLines with
    | block _ colon inside =>
      have under := stands_block (place.event (.header header))
        (place.event (.deferred (.block depth))) (place.deeper.event .pass) rfl
        (Text.not_allBlank_colon colon) rfl rfl rfl (ih inside)
      have behind : Stands place.level
          (written shared [place.event (.released (.block depth))]) :=
        stands_plain (by simp [Place.event, Event.header?])
      rw [written_append]
      exact under.append behind
  | @call place own first _ inner _ names depth code _ _ ih =>
    cases (List.forall_mem_cons.mp onLines).1 with
    | function _ inside =>
      have declared : Stands (place.level + 1)
          (written shared [(place.within own first).event (.declaration first)]) :=
        stands_plain (by simp [Place.event, Place.within, Event.header?])
      have body := declared.append (ih inside)
      rw [← written_cons] at body
      have under := stands_block (place.event (.define first))
        (place.event (.deferred (.call depth code first)))
        ((place.within own first).event .pass) rfl (not_allBlank_blockHeader first) rfl rfl rfl
        body
      have behind : Stands place.level
          (written shared [place.event (.released (.call depth code first))]) :=
        stands_plain (by simp [Place.event, Event.header?])
      rw [written_append]
      -- what goes into the declaration is no line of its own
      exact under.append behind

/-- The header of a silent block ends in a colon. -/
theorem Nested.colons (nested : Nested place own first events statements last)
    (onLines : ∀ statement ∈ statements, statement.OnLines) :
    ∀ event ∈ events, ∀ code, event.entry = .header code → code.getLast? = some ':' := by
  induction nested with
  | append _ _ before after =>
    obtain ⟨left, right⟩ := List.forall_mem_append.mp onLines
    exact List.forall_mem_append.mpr ⟨before left, after right⟩
  | indent _ _ ih =>
    rw [List.forall_mem_append, List.forall_mem_append]
    exact ⟨⟨by simp [Place.event], ih onLines⟩, by simp [Place.event]⟩
  | tag _ _ _ ih =>
    obtain ⟨before, _⟩ := List.forall_mem_append.mp onLines
    rw [List.forall_mem_append, List.forall_mem_append]
    exact ⟨⟨by simp [Place.event], ih (List.forall_mem_append.mp before).2⟩, by simp [Place.event]⟩
  | block depth header _ ih =>
    cases List.forall_mem_singleton.mp onLines with
    | block _ colon inside =>
      rw [List.forall_mem_append, List.forall_mem_append]
      exact ⟨⟨by simpa [Place.event] using colon, ih inside⟩, by simp [Place.event]⟩
  | call depth code _ _ ih =>
    cases (List.forall_mem_cons.mp onLines).1 with
    | function _ inside =>
      rw [List.forall_mem_append, List.forall_mem_append]
      exact ⟨⟨by simp [Place.event], ih inside⟩, by simp [Place.event]⟩
  | _ => simp [Place.event]

theorem Nested.headers (nested : Nested place own first events statements last)
    (onLines : ∀ statement ∈ statements, statement.OnLines) (member : event ∈ events) {code : Text}
    (header : event.header? = some code) : event.IsHeader code := by
  unfold Event.header? at header
  split at header
  next entry =>
    cases header
    exact .inl ⟨entry, nested.colons onLines event member _ entry⟩
  next number entry =>
    cases header
    exact .inr ⟨number, entry, rfl⟩
  next => cases header

/-- A header is written, and what does nothing is written right behind it. -/
theorem written_header (stands : Stands level (written shared events)) {before after : List Event}
    (split : events = before ++ event :: after) {code : Text}
    (opens : event.header? = some code) (inked : Text.allBlank code = false) :
    ∃ pass rest, written shared (event :: after) =
      (event, ⟨event.level, code⟩) :: (pass, ⟨event.level + 1, "pass".toList⟩) :: rest := by
  have here : written shared [event] = [(event, ⟨event.level, code⟩)] :=
    written_line (Event.lines_header opens shared) inked
  rw [split, written_append, written_cons, here, List.singleton_append] at stands
  obtain ⟨pass, rest, same⟩ := stands.followed (by rw [opens]; rfl)
  exact ⟨pass, rest, by rw [written_cons, here, same, List.singleton_append]⟩

end Journal

end Stencil
