import Stencil.Proofs.Builder.Stack

/-!
The lines whose closers are on the stack are the ancestors by indentation.
-/

set_option autoImplicit false

namespace Stencil

open Markup

namespace Builder

/-- Whether every line behind the one is deeper than it, down to the other. -/
def Under (depths : List Nat) (one other : Nat) : Prop :=
  ∀ between, between ≤ other → one < between → depths.getD one 0 < depths.getD between 0

instance (depths : List Nat) (one other : Nat) : Decidable (Under depths one other) :=
  inferInstanceAs (Decidable (∀ between, between ≤ other → one < between → _))

/-- What the lines above a line left that this line is still below, the first line first. -/
def ancestors (depths : List Nat) (pushed : List (List Pending)) (line : Nat) : List Pending :=
  ((List.range line).filter fun one => Under depths one line).flatMap fun one =>
    pushed.getD one []

theorem under_succ (depth : Nat) (depths : List Nat) (one other : Nat) :
    Under (depth :: depths) (one + 1) (other + 1) ↔ Under depths one other := by
  constructor
  · intro under between bound above
    exact under (between + 1) (Nat.succ_le_succ bound) (Nat.succ_lt_succ above)
  · intro under between bound above
    cases between with
    | zero => exact absurd above (Nat.not_lt_zero _)
    | succ between => exact under between (Nat.le_of_succ_le_succ bound) (Nat.lt_of_succ_lt_succ above)

theorem under_first (depth : Nat) (depths : List Nat) (other : Nat) :
    Under (depth :: depths) 0 (other + 1) ↔ ∀ k, k ≤ other → depth < depths.getD k 0 := by
  constructor
  · exact fun under k bound => under (k + 1) (Nat.succ_le_succ bound) (Nat.succ_pos k)
  · intro deeper between bound above
    cases between with
    | zero => exact absurd above (Nat.not_lt_zero _)
    | succ between => exact deeper between (Nat.le_of_succ_le_succ bound)

theorem ancestors_succ (depth : Nat) (depths : List Nat) (first : List Pending)
    (pushed : List (List Pending)) (line : Nat) :
    ancestors (depth :: depths) (first :: pushed) (line + 1) =
      (if Under (depth :: depths) 0 (line + 1) then first else []) ++
        ancestors depths pushed line := by
  have later : ((List.range line).map Nat.succ).filter
      (fun one => Under (depth :: depths) one (line + 1)) =
        ((List.range line).filter fun one => Under depths one line).map Nat.succ := by
    rw [List.filter_map]
    congr 2
    funext one
    exact decide_eq_decide.mpr (under_succ depth depths one line)
  rw [ancestors, List.range_succ_eq_map, List.filter_cons, later]
  by_cases under : Under (depth :: depths) 0 (line + 1)
  next => simp [under, ancestors, List.flatMap_map]
  next => simp [under, ancestors, List.flatMap_map]

theorem filter_deeper {pushed : List Pending} {depth : Nat}
    (depths : ∀ one ∈ pushed, one.depth = depth) (deeper : Nat → Prop) [DecidablePred deeper] :
    (pushed.filter fun one => deeper one.depth) = if deeper depth then pushed else [] := by
  by_cases inside : deeper depth
  next =>
    rw [if_pos inside]
    exact List.filter_eq_self.mpr fun one member => decide_eq_true (depths one member ▸ inside)
  next =>
    rw [if_neg inside]
    exact List.filter_eq_nil_iff.mpr fun one member => by
      simpa [depths one member] using inside

variable {builder : Builder} {lines : List Markup.Line} {passages : List Passage}

theorem Passed.length_eq (passed : Passed builder lines passages) :
    passages.length = lines.length := by
  induction passed with
  | nil => rfl
  | cons _ _ _ _ ih => simp only [List.length_cons, ih]

theorem deeper_succ (depth first : Nat) (depths : List Nat) (place : Nat) :
    (∀ k, k ≤ place + 1 → depth < (first :: depths).getD k 0) ↔
      (∀ k, k ≤ place → depth < depths.getD k 0) ∧ depth < first := by
  constructor
  · exact fun deeper => ⟨fun k bound => deeper (k + 1) (Nat.succ_le_succ bound),
      deeper 0 (Nat.zero_le _)⟩
  · rintro ⟨later, now⟩ k bound
    cases k with
    | zero => exact now
    | succ k => exact later k (Nat.le_of_succ_le_succ bound)

theorem pushed_reverse {passage : Passage} {pushed : List Pending}
    (left : passage.left.closers = passage.entered.closers ++ pushed.reverse) :
    passage.pushed = pushed.reverse := by
  rw [Passage.pushed, left, List.drop_left]

/-- What is on the stack at a line is what was there before the first that the line is still
below, and what the lines in between left. -/
theorem Passed.entered_closers (passed : Passed builder lines passages) {place : Nat}
    {passage : Passage} (found : passages[place]? = some passage) :
    passage.entered.closers =
      (builder.closers.filter fun one =>
        ∀ k, k ≤ place → one.depth < (lines.map Markup.Line.depth).getD k 0) ++
      ancestors (lines.map Markup.Line.depth) (passages.map Passage.pushed) place := by
  induction passed generalizing place with
  | nil => cases found
  | cons entered leaves left others ih =>
    rename_i builder line first lines passages pushed
    cases place with
    | zero =>
      cases found
      simpa [ancestors] using entered
    | succ place =>
      have level : ∀ one ∈ pushed.reverse, one.depth = line.depth := fun one member =>
        leaves.depths one (List.mem_reverse.mp member)
      have below := filter_deeper level
        fun depth => ∀ k, k ≤ place → depth < (lines.map Markup.Line.depth).getD k 0
      rw [ih found, left, entered, List.filter_append, List.filter_filter, below, List.map_cons,
        List.map_cons, ancestors_succ, pushed_reverse left, List.append_assoc]
      congr 1
      next =>
        refine List.filter_congr fun one _ => ?_
        rw [← Bool.decide_and]
        exact decide_eq_decide.mpr (deeper_succ ..).symm
      next => simp only [under_first]

/-- What a line leaves, in terms of the line and the one behind it. -/
theorem Passed.leaves (passed : Passed builder lines passages) {place : Nat} {line : Markup.Line}
    {passage : Passage} (at_line : lines[place]? = some line)
    (found : passages[place]? = some passage) :
    passage.left.closers = passage.entered.closers ++ passage.pushed ∧
      Leaves line.depth line.form.mayOpen (line.opens (lines.drop (place + 1)))
        passage.pushed.reverse := by
  induction passed generalizing place with
  | nil => cases found
  | cons entered leaves left others ih =>
    cases place with
    | zero =>
      cases at_line
      cases found
      rw [pushed_reverse left, List.reverse_reverse]
      exact ⟨left, leaves⟩
    | succ place => exact ih at_line found

end Builder

namespace Markup

theorem ReadsAll.depths {first : Bool} {rows : List Row} {lines : List Markup.Line}
    (reads : ReadsAll first rows lines) : lines.map Line.depth = rows.map Row.depth := by
  induction reads with
  | nil => rfl
  | cons one others ih => rw [List.map_cons, List.map_cons, one.depth, ih]

theorem ReadsAll.shows {first : Bool} {rows : List Row} {lines : List Markup.Line}
    (reads : ReadsAll first rows lines) {line : Markup.Line} (member : line ∈ lines) :
    ∃ row, row ∈ rows ∧ row.Shows line.form := by
  induction reads with
  | nil => cases member
  | cons one others ih =>
    rcases List.mem_cons.mp member with rfl | later
    · exact ⟨_, List.mem_cons_self .., one.shows⟩
    · obtain ⟨row, inside, shows⟩ := ih later
      exact ⟨row, List.mem_cons_of_mem _ inside, shows⟩

theorem ReadsAll.getElem? {first : Bool} {rows : List Row} {lines : List Markup.Line}
    (reads : ReadsAll first rows lines) {place : Nat} {row : Row} (found : rows[place]? = some row) :
    ∃ line, lines[place]? = some line ∧ line.depth = row.depth ∧ row.Shows line.form := by
  induction reads generalizing place with
  | nil => cases found
  | cons one others ih =>
    cases place with
    | zero =>
      cases found
      exact ⟨_, rfl, one.depth, one.shows⟩
    | succ place => exact ih found

end Markup

namespace Builder

theorem loud_of_readsAll {first : Bool} {rows : List Row} {lines : List Markup.Line}
    (reads : ReadsAll first rows lines) : Loud lines := by
  intro line member head matter form
  obtain ⟨row, _, shows⟩ := reads.shows member
  exact (form ▸ shows).loud

end Builder

namespace Program

theorem passed_of_lines {source contextType : Text} {rows : List Row} {lines : List Markup.Line}
    {program : Program} (lexed : Lexer.lex source = .ok (lines.flatMap Markup.Line.tokens))
    (reads : ReadsAll true rows lines)
    (built : ofLines lines contextType = .ok program) :
    ∃ passages, Program.passages source = .ok passages ∧
      Builder.Passed .initial lines passages ∧
      program.body = ((Builder.Passage.last .initial passages).closeTo 0).body.reverse := by
  obtain ⟨⟨builder, others⟩, opened, built⟩ := Outcome.bind_eq_ok.mp built
  obtain ⟨last, ran, built⟩ := Outcome.bind_eq_ok.mp built
  cases built
  have starts := Builder.starts_of_opening reads opened
  rw [Builder.runLines_eq_passLines] at ran
  cases passed : builder.passLines others with
  | error fault =>
    rw [passed] at ran
    cases ran
  | ok later =>
    rw [passed] at ran
    cases ran
    have same : builder.passages (others.flatMap Markup.Line.tokens) = .ok later :=
      (Builder.passages_lines starts.1 starts.2).trans passed
    have shown : Program.passages source = .ok (
        if (others.flatMap Markup.Line.tokens).length < (lines.flatMap Markup.Line.tokens).length
        then ⟨.initial, builder⟩ :: later else later) := by
      simp only [Program.passages, lexed, Outcome.ok_bind, Builder.docType_lines reads, opened,
        pure, Except.pure, same]
    cases reads with
    | nil =>
      cases opened
      cases passed
      exact ⟨[], shown, .nil _, rfl⟩
    | cons one more =>
      rename_i row line rows lines
      have loud := Builder.loud_of_readsAll (.cons one more)
      rcases Builder.runs_or_docType line with runs | ⟨sign, type, rfl⟩
      · rw [Builder.opening_runs runs] at opened
        cases opened
        rw [if_neg (Nat.lt_irrefl _)] at shown
        refine ⟨later, shown, ?_, rfl⟩
        exact Builder.passed_of_passLines .nil (fun first same => (starts.1 first same).1) starts.2
          loud passed
      · simp only [Builder.opening] at opened
        split at opened
        next declaration known =>
          cases opened
          have shorter : (others.flatMap Markup.Line.tokens).length <
              ((⟨none, .docType sign type⟩ :: others).flatMap Markup.Line.tokens).length := by
            simp only [List.flatMap_cons, List.length_append]
            exact Nat.lt_add_of_pos_left (by simp [Markup.Line.tokens, Form.tokens])
          rw [if_pos shorter] at shown
          refine ⟨_, shown, ?_, ?_⟩
          · refine .cons rfl (Builder.leaves_nothing rfl) rfl ?_
            exact Builder.passed_of_passLines .nil (fun first same => (starts.1 first same).1)
              starts.2 loud.tail passed
          · rw [Builder.Passage.last_cons]
        next => cases opened

end Program

namespace Builder

/-- What the stack holds at each line, and what each line leaves on it. -/
structure Nests (rows : List Row) (passages : List Passage) : Prop where
  length : passages.length = rows.length
  entered : ∀ (place : Nat) (passage : Passage), passages[place]? = some passage →
    passage.entered.closers =
      ancestors (rows.map Row.depth) (passages.map Passage.pushed) place
  left : ∀ passage ∈ passages, passage.left.closers = passage.entered.closers ++ passage.pushed
  order : ∀ passage ∈ passages, ∃ tags blocks, passage.pushed = tags ++ blocks ∧
    tags.length ≤ 1 ∧ blocks.length ≤ 1 ∧
    (∀ one ∈ tags, one.isEndTag = true) ∧ ∀ one ∈ blocks, one.isBlock = true
  opens : ∀ (place : Nat) (row : Row) (passage : Passage), rows[place]? = some row →
    passages[place]? = some passage →
    (passage.pushed ≠ [] ↔ row.mayOpen = true ∧ ∃ next ∈ rows[place + 1]?, row.depth < next.depth)

theorem opens_drop (line : Markup.Line) (lines : List Markup.Line) (place : Nat) :
    line.opens (lines.drop place) = true ↔
      ∃ depth ∈ lines[place]?.map Markup.Line.depth, line.depth < depth := by
  rw [← List.head?_drop]
  cases lines.drop place with
  | nil => simp [Markup.Line.opens]
  | cons next rest => simp [Markup.Line.opens]

theorem nests_of_passed {rows : List Row} {lines : List Markup.Line} {passages : List Passage}
    (reads : ReadsAll true rows lines) (passed : Passed .initial lines passages) :
    Nests rows passages := by
  have lengths : rows.length = lines.length := by
    simpa using (congrArg List.length reads.depths).symm
  have at_place {place : Nat} {passage : Passage} (found : passages[place]? = some passage) :
      ∃ row line, rows[place]? = some row ∧ lines[place]? = some line ∧
        line.depth = row.depth ∧ row.Shows line.form := by
    have inside : place < passages.length := (List.getElem?_eq_some_iff.mp found).1
    have bound : place < rows.length := by rw [lengths, ← passed.length_eq]; exact inside
    obtain ⟨line, same, depth, shows⟩ := reads.getElem? (List.getElem?_eq_getElem bound)
    exact ⟨_, line, List.getElem?_eq_getElem bound, same, depth, shows⟩
  constructor
  case length => rw [passed.length_eq, lengths]
  case entered =>
    intro place passage found
    rw [passed.entered_closers found, reads.depths]
    rfl
  case left =>
    intro passage member
    obtain ⟨place, found⟩ := List.mem_iff_getElem?.mp member
    obtain ⟨row, line, _, same, _⟩ := at_place found
    exact (passed.leaves same found).1
  case order =>
    intro passage member
    obtain ⟨place, found⟩ := List.mem_iff_getElem?.mp member
    obtain ⟨row, line, _, same, _⟩ := at_place found
    obtain ⟨blocks, tags, shape, block, tag, areBlocks, areTags⟩ := (passed.leaves same found).2.order
    refine ⟨tags.reverse, blocks.reverse, ?_, by simpa using tag, by simpa using block,
      by simpa using areTags, by simpa using areBlocks⟩
    rw [← List.reverse_append, ← shape, List.reverse_reverse]
  case opens =>
    intro place row passage here found
    obtain ⟨line, same, depth, shows⟩ := reads.getElem? here
    have present := (passed.leaves same found).2.present
    rw [shows.mayOpen, Bool.and_eq_true] at present
    rw [← List.reverse_ne_nil_iff, present]
    have others : lines[place + 1]?.map Markup.Line.depth = rows[place + 1]?.map Row.depth := by
      rw [← List.getElem?_map, reads.depths, List.getElem?_map]
    refine and_congr_right fun _ => ?_
    rw [opens_drop, depth, others]
    cases rows[place + 1]? <;> simp

end Builder

namespace Program

/-- The stack of the builder is the ancestry by indentation: where a line begins, it holds what the
lines above left that every line since is deeper than, and a line leaves something exactly if it
has a tag or code and deeper lines follow. -/
theorem stack_is_ancestry {source contextType : Text} {program : Program}
    (compiled : ofSource source contextType = .ok program) :
    ∃ passages, Program.passages source = .ok passages ∧
      program.body = ((Builder.Passage.last .initial passages).closeTo 0).body.reverse ∧
      Builder.Nests (rows source) passages := by
  obtain ⟨lines, lexed, reads, built⟩ := ofSource_ok compiled
  obtain ⟨passages, shown, passed, body⟩ := passed_of_lines lexed reads built
  exact ⟨passages, shown, body, Builder.nests_of_passed reads passed⟩

def nestedSource : Text := "%a\n    = 'b'\n      %c\n  - if d:\n     e\nf".toList

theorem stack_is_ancestry_nested :
    (rows nestedSource).map Row.depth = [0, 4, 6, 2, 5, 0] ∧
      ∃ passages, Program.passages nestedSource = .ok passages ∧
        Builder.Nests (rows nestedSource) passages := by
  have spelled : nestedSource = _ := String.toList_ofList
  have compiles : (ofSource nestedSource "T".toList).toOption.isSome = true := by
    rw [spelled]
    decide +kernel
  obtain ⟨program, compiled⟩ := Outcome.ok_of_isSome compiles
  obtain ⟨passages, shown, _, nests⟩ := stack_is_ancestry compiled
  exact ⟨by rw [spelled]; decide +kernel, passages, shown, nests⟩

end Program

end Stencil
