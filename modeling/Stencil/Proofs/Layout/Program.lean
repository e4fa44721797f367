import Stencil.Proofs.Journal.Sharing
import Stencil.Proofs.Layout.Steps

/-!
The text of a program: its lines, and how deep each of them stands.
-/

set_option autoImplicit false

namespace Stencil

open Text (Unbroken)

/-! ### Text -/

theorem CodeLine.unbroken_text {line : CodeLine} (unbroken : Unbroken line.content) :
    Unbroken line.text :=
  Text.unbroken_append.mpr ⟨Text.unbroken_spaces _, unbroken⟩

namespace Program

theorem unbroken_opening (contextType : Text) :
    ∀ line ∈ opening contextType, Unbroken line.content := by
  have type : Unbroken
      ("self: ".toList ++ Text.quoted contextType ++ " = bindings['context']".toList) :=
    Text.unbroken_append.mpr
      ⟨Text.unbroken_append.mpr ⟨by decide, Text.unbroken_quoted contextType⟩, by decide⟩
  simp only [opening, List.forall_mem_cons]
  exact ⟨by decide, by decide, by decide, by decide, by decide, type, by simp⟩

theorem visible_opening (contextType : Text) :
    Journal.visible (opening contextType) = opening contextType := by
  have type : Text.allBlank
      ("self: ".toList ++ Text.quoted contextType ++ " = bindings['context']".toList) = false :=
    Text.not_allBlank (c := 's') (by simp) (by decide)
  refine List.filter_eq_self.mpr ?_
  simp only [opening, List.forall_mem_cons, type]
  exact ⟨by decide, by decide, by decide, by decide, by decide, rfl, by simp⟩

theorem unbroken_codeLines {program : Program}
    (onLines : ∀ statement ∈ program.body, statement.OnLines) :
    ∀ line ∈ program.codeLines, Unbroken line.content := by
  have last : Unbroken closing.content := by decide
  simp only [codeLines, List.forall_mem_append]
  refine ⟨⟨unbroken_opening _, fun line member => ?_⟩, List.forall_mem_singleton.mpr last⟩
  obtain ⟨statement, inside, found⟩ := Statement.mem_codeLinesOf.mp member
  exact (onLines statement inside).unbroken 1 line found

/-- The code comes apart into its lines at the line feeds. -/
theorem splitAt_code {program : Program}
    (unbroken : ∀ line ∈ program.codeLines, Unbroken line.content) :
    Text.splitAt '\n' program.code = (Journal.visible program.codeLines).map CodeLine.text := by
  refine Text.splitAt_join ?_ fun text member => ?_
  · have last : closing ∈ Journal.visible program.codeLines :=
      List.mem_filter.mpr ⟨List.mem_append_right _ (List.mem_singleton_self _), by decide⟩
    exact List.ne_nil_of_mem (List.mem_map_of_mem last)
  · obtain ⟨line, inside, rfl⟩ := List.mem_map.mp member
    intro feed
    exact (CodeLine.unbroken_text (unbroken line (List.mem_filter.mp inside).1) _ feed).1 rfl

end Program

namespace Journal

/-! ### Levels -/

/-- Lines of code that no turn writes, with events that stand for them. -/
def fixed (lines : List CodeLine) : List (Event × CodeLine) :=
  lines.map fun line => (⟨line.level, [], .statement line.content⟩, line)

/-- The lines under the header of the function that renders, which is the fourth line. -/
def renderLines (log : List Event) (program : Program) : List (Event × CodeLine) :=
  fixed ((Program.opening program.contextType).drop 4) ++ written (sharedOf log) log ++
    fixed [Program.closing]

/-- How the code of a program is laid out, given its log. -/
structure LaidOut (log : List Event) (program : Program) : Prop where
  text : Text.splitAt '\n' program.code = (visible program.codeLines).map CodeLine.text
  lines : visible program.codeLines =
    (Program.opening program.contextType).take 4 ++ (renderLines log program).map Prod.snd
  unbroken : ∀ line ∈ visible program.codeLines, Unbroken line.content
  climbs : (visible program.codeLines).IsChain fun one next => next.level ≤ one.level + 1
  /-- Code goes deeper right behind a header that was opened, and nowhere else. -/
  deeper : ∀ before one next after, renderLines log program = before ++ one :: next :: after →
    one.2.level < next.2.level → one.1.header?.isSome = true
  headers : ∀ event ∈ log, ∀ code, event.header? = some code → event.IsHeader code
  /-- A header is in the code, and what is right behind it does nothing, one level deeper. -/
  opened : ∀ before event after code, log = before ++ event :: after → event.header? = some code →
    ∃ pass rest, written (sharedOf log) (event :: after) =
      (event, ⟨event.level, code⟩) :: (pass, ⟨event.level + 1, "pass".toList⟩) :: rest
  starts : ∀ one ∈ (written (sharedOf log) log).head?, one.2.level = 1
  inside : ∀ one ∈ renderLines log program, 1 ≤ one.2.level
  ends : (renderLines log program).getLast?.map Prod.snd = some Program.closing ∧
    Program.closing.level = 1

theorem snd_fixed (lines : List CodeLine) : (fixed lines).map Prod.snd = lines := by
  simp [fixed, Function.comp_def]

theorem stands_fixed {level : Nat} {lines : List CodeLine}
    (flat : ∀ line ∈ lines, line.level = level) : Stands level (fixed lines) := by
  induction lines with
  | nil => exact stands_nil _
  | cons line rest ih =>
    obtain ⟨rfl, others⟩ := List.forall_mem_cons.mp flat
    exact (stands_line line rfl).append (ih others)

theorem stands_renderLines {log : List Event} (stands : Stands 1 (written (sharedOf log) log))
    (program : Program) : Stands 1 (renderLines log program) := by
  have before : Stands 1 (fixed ((Program.opening program.contextType).drop 4)) :=
    stands_fixed (List.forall_mem_cons.mpr ⟨rfl, List.forall_mem_singleton.mpr rfl⟩)
  exact (before.append stands).append (stands_fixed (List.forall_mem_singleton.mpr rfl))

theorem lines_renderLines {log : List Event} {program : Program}
    (code : visible (Statement.codeLinesOf 1 program.body) =
      visible (log.flatMap (Event.lines (sharedOf log)))) :
    visible program.codeLines =
      (Program.opening program.contextType).take 4 ++ (renderLines log program).map Prod.snd := by
  have last : visible [Program.closing] = [Program.closing] := rfl
  rw [Program.codeLines, visible_append, visible_append, Program.visible_opening, code, last,
    renderLines, List.map_append, List.map_append, snd_fixed, snd_fixed, lines_written,
    ← List.append_assoc, ← List.append_assoc, List.take_append_drop]

/-- The code climbs by single levels, from its first line on. -/
theorem climbs_codeLines {log : List Event} {program : Program}
    (stands : Stands 1 (renderLines log program)) :
    ((Program.opening program.contextType).take 4 ++
        (renderLines log program).map Prod.snd).IsChain
      fun one next => next.level ≤ one.level + 1 := by
  refine List.isChain_append.mpr ⟨?_, ?_, ?_⟩
  · exact .cons_cons (Nat.zero_le _) (.cons_cons (Nat.le_refl _)
      (.cons_cons (Nat.zero_le _) (.singleton _)))
  · exact (List.isChain_map _).mpr (stands.chain.imp fun _ _ joins => joins.le)
  · intro one ends next begins
    obtain ⟨line, first, rfl⟩ := Option.map_eq_some_iff.mp (List.head?_map.symm.trans begins)
    rw [stands.first line first]
    exact Nat.le_add_left ..

/-- Whatever the source and the context type, the code is laid out as blocks. -/
theorem layout_is_legal {source contextType : Text} {program : Program}
    (compiled : Program.ofSource source contextType = .ok program) :
    ∃ tokens turns, Lexer.lex source = .ok tokens ∧ Program.turns tokens = .ok turns ∧
      LaidOut (Ledger.ofTurns turns).log program := by
  have onLines := Program.onLines_body compiled
  obtain ⟨tokens, lexed, built⟩ := Outcome.bind_eq_ok.mp compiled
  obtain ⟨turns, last, read, taken, nested⟩ := nested_program built
  have stands : Stands 1 (written (sharedOf (Ledger.ofTurns turns).log)
      (Ledger.ofTurns turns).log) := nested.stands onLines
  have rendered := stands_renderLines stands program
  have lines := lines_renderLines (nested.lines nested.filled).symm
  have unbroken := Program.unbroken_codeLines onLines
  refine ⟨tokens, turns, lexed, read, {
    text := Program.splitAt_code unbroken
    lines := lines
    unbroken := fun line member => unbroken line (List.mem_filter.mp member).1
    climbs := lines ▸ climbs_codeLines rendered
    deeper := ?deeper
    headers := ?headers
    opened := ?opened
    starts := stands.first
    inside := rendered.above
    ends := ⟨by rw [renderLines, List.getLast?_append]; rfl, rfl⟩ }⟩
  case deeper =>
    intro before one next after split less
    exact (split ▸ rendered).deeper less
  case headers => exact fun event member code => nested.headers onLines member
  case opened =>
    intro before event after code split opens
    have member : event ∈ (Ledger.ofTurns turns).log := by
      rw [split]
      exact List.mem_append_right _ (List.mem_cons_self ..)
    exact written_header stands split opens (nested.headers onLines member opens).inked

/-- Breaks of several sorts, a silent block in a function and lines that come back unevenly. The
last line looks like a header but opens nothing. -/
def brokenSource : Text :=
  Text.join ['\n'] ["%div\r".toList, "    = self.form\u000b".toList,
    "        - for x in self.y".toList, "            %p Hello".toList, [],
    "      \\-\u2028".toList, " = self.z".toList, "- if self.w:".toList]

theorem layout_is_legal_broken :
    ∃ program tokens turns, Program.ofSource brokenSource "a\nb".toList = .ok program ∧
      Lexer.lex brokenSource = .ok tokens ∧ Program.turns tokens = .ok turns ∧
      LaidOut (Ledger.ofTurns turns).log program ∧
      (visible program.codeLines).map CodeLine.level =
        [0, 0, 1, 0, 1, 1, 1, 1, 2, 2, 3, 3, 2, 1, 1, 1, 1, 1] := by
  have levels : (Program.ofSource brokenSource "a\nb".toList).toOption.map (fun program =>
      (visible program.codeLines).map CodeLine.level) =
        some [0, 0, 1, 0, 1, 1, 1, 1, 2, 2, 3, 3, 2, 1, 1, 1, 1, 1] := by
    decide +kernel
  obtain ⟨program, compiled, found⟩ := Outcome.ok_of_map levels
  obtain ⟨tokens, turns, lexed, read, laidOut⟩ := layout_is_legal compiled
  exact ⟨program, tokens, turns, compiled, lexed, read, laidOut, found⟩

end Journal

end Stencil
