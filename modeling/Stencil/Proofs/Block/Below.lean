import Stencil.Proofs.Block.Building
import Stencil.Proofs.Layout.Built
import Stencil.Proofs.Static.Rendering

/-!
Lines without code that render by themselves have a program that can be loaded. So nothing of what
they put out keeps them from standing below a line of code.
-/

set_option autoImplicit false

namespace Stencil

open Markup Script.Static

/-! ### What a rendering has gone through -/

theorem Work.ok_of_lift {α ε : Type} {outcome : Except ε α} {change : ε → Fault}
    {workspace later : Workspace} {value : α}
    (done : Work.lift (outcome.mapError change) workspace = .ok value later) : outcome = .ok value := by
  cases outcome with
  | ok found =>
    cases done
    rfl
  | error fault => cases done

/-- A source that renders has a program whose code can be loaded. -/
theorem loads_of_rendered {source : Text} {context : Context} {workspace later : Workspace}
    {value : Script.Value}
    (rendered : renderSource (.text source) context workspace = .ok value later) :
    ∃ tokens program statements, Lexer.lex source = .ok tokens ∧
      Program.ofTokens tokens context.type.name = .ok program ∧
      Script.loadModule program.code = .ok statements := by
  obtain ⟨template, middle, compiled, -⟩ := Outcome.ran_bind rendered
  rw [Template.compile, Source.read, pure_bind] at compiled
  obtain ⟨-, _, -, compiled⟩ := Outcome.ran_bind compiled
  obtain ⟨tokens, _, lexed, compiled⟩ := Outcome.ran_bind compiled
  obtain ⟨-, _, -, compiled⟩ := Outcome.ran_bind compiled
  obtain ⟨program, _, built, compiled⟩ := Outcome.ran_bind compiled
  obtain ⟨-, _, -, compiled⟩ := Outcome.ran_bind compiled
  rw [Template.ofCode] at compiled
  have clean : ("<string>".toList).contains '\x00' = false := by decide
  simp only [List.isEmpty_nil, if_true, clean, Bool.false_eq_true, if_false] at compiled
  obtain ⟨-, _, -, compiled⟩ := Outcome.ran_bind compiled
  obtain ⟨statements, _, loaded, -⟩ := Outcome.ran_bind compiled
  exact ⟨tokens, program, statements, Work.ok_of_lift lexed, Work.ok_of_lift built,
    Work.ok_of_lift loaded⟩

/-! ### Characters of the code -/

theorem Text.infix_join {separator part : Text} {parts : List Text} (member : part ∈ parts) :
    part <:+: join separator parts := by
  rw [join]
  induction parts with
  | nil => cases member
  | cons first rest ih =>
    by_cases last : rest = []
    next =>
      subst last
      rw [List.intercalate_singleton, List.mem_singleton.mp member]
    next =>
      rw [List.intercalate_cons_of_ne_nil last]
      rcases List.mem_cons.mp member with rfl | later
      · rw [List.append_assoc]
        exact (List.prefix_append _ _).isInfix
      · exact (ih later).trans (List.suffix_append _ _).isInfix

/-- A line that says anything stands in the code. -/
theorem Program.infix_code {program : Program} {line : CodeLine} (member : line ∈ program.codeLines)
    (visible : Text.allBlank line.content = false) : line.content <:+: program.code := by
  have kept : line ∈ program.codeLines.filter fun line => !Text.allBlank line.content :=
    List.mem_filter.mpr ⟨member, by rw [visible]; rfl⟩
  exact (List.suffix_append _ _).isInfix.trans (Text.infix_join (List.mem_map_of_mem kept))

theorem infix_of_appending {program : Program} {line : Line} {expression : Text}
    (member : Statement.line line ∈ program.body) (form : line.statementForm = appending expression) :
    expression <:+: program.code := by
  have found : CodeLine.mk 1 (appending expression) ∈ program.codeLines := by
    refine List.mem_append_left _ (List.mem_append_right _ ?_)
    exact Statement.mem_codeLinesOf.mpr ⟨_, member, by simp [Statement.codeLines, form]⟩
  refine List.IsInfix.trans ?_ (Program.infix_code found rfl)
  exact ⟨outputName ++ ".append(".toList, [')'], rfl⟩

theorem nul_of_literal {text : Text} (nul : '\x00' ∈ text) : '\x00' ∈ Fragment.literalBody text := by
  rw [Fragment.literalBody, Text.replaceEach]
  exact List.mem_flatMap.mpr ⟨_, nul, List.mem_singleton.mpr rfl⟩

theorem nul_of_shown {entry : Entry} (nul : '\x00' ∈ entry.shown) : '\x00' ∈ entry.code := by
  obtain ⟨⟨escaped, text⟩, member, inside⟩ := List.mem_flatMap.mp nul
  have written : '\x00' ∈ (Piece.mk escaped text).code := by
    cases escaped with
    | false => exact List.mem_cons_of_mem _ (List.mem_append_left _ (nul_of_literal inside))
    | true =>
      have said : '\x00' ∈ text := by
        rw [Piece.shown, if_pos rfl, escapeText_false] at inside
        exact escaped_nul.mp inside
      have body := List.mem_cons_of_mem '\'' (List.mem_append_left ['\''] (nul_of_literal said))
      exact List.mem_append_left _ (List.mem_append_right _ (List.mem_cons_of_mem _ body))
  rw [Entry.code_eq]
  exact (Text.infix_join (List.mem_map_of_mem member)).subset written

/-- What a template without code puts out has no NUL in it if its code can be loaded. -/
theorem readable_of_puts {program : Program} {statements : List Script.Stmt} {texts : List Text}
    (puts : Puts program.body texts) (loaded : Script.loadModule program.code = .ok statements) :
    ∀ text ∈ texts, '\x00' ∉ text := by
  obtain ⟨outputs, entries, written, same, rfl, -⟩ := puts
  intro text member nul
  obtain ⟨entry, known, rfl⟩ := List.mem_map.mp member
  have coded : entry.code ∈ outputs.map Output.expression := same ▸ List.mem_map_of_mem known
  obtain ⟨output, put, expression⟩ := List.mem_map.mp coded
  have inside : Statement.line (.output output) ∈ program.body :=
    written ▸ List.mem_map_of_mem (f := fun output => Statement.line (.output output)) put
  have found : '\x00' ∈ program.code :=
    (infix_of_appending inside rfl).subset (expression ▸ nul_of_shown nul)
  have refused : program.code.contains '\x00' = true := List.contains_iff_mem.mpr found
  rw [Script.loadModule, Script.readModule, refused] at loaded
  cases loaded

/-! ### Lines that render by themselves -/

theorem Builder.entries_of_ran {lines : List Markup.Line} {builder last : Builder}
    (ran : builder.runLines lines = .ok last) :
    ∀ line ∈ lines, ∃ head matter, line.form = .entry head matter := by
  induction lines generalizing builder with
  | nil => exact List.forall_mem_nil _
  | cons line rest ih =>
    obtain ⟨next, written, ran⟩ := Outcome.bind_eq_ok.mp ran
    refine List.forall_mem_cons.mpr ⟨?_, ih ran⟩
    rw [Builder.writeLine] at written
    split at written
    next => cases written
    next head matter form => exact ⟨head, matter, form⟩

theorem Builder.opening_indented {rows : List Row} {lines : List Markup.Line}
    (reads : ReadsAll true rows lines) (present : rows ≠ [])
    (deep : ∀ row ∈ rows, 0 < row.depth) : Builder.opening lines = .ok (Builder.initial, lines) := by
  cases reads with
  | nil => exact absurd rfl present
  | @cons _ row _ _ _ one others =>
    have indented := one.indented
    have positive := deep row (List.mem_cons_self ..)
    rw [beq_false_of_ne (Nat.ne_of_gt positive)] at indented
    exact Builder.opening_runs (.inl indented)

theorem Markup.texts_ne_nil {line : Markup.Line} {row : Row} (shows : row.Shows line.form)
    (plain : ∀ token ∈ line.tokens, Plain token) (deeper : Bool) : line.texts deeper ≠ [] := by
  have inside : ∀ token ∈ line.form.tokens, Plain token := fun token member =>
    plain token (List.mem_append_right _ member)
  have spoken := shows.spoken
  rw [Markup.Line.texts]
  generalize line.form = form at inside spoken
  cases form with
  | docType sign type => exact List.cons_ne_nil _ _
  | entry head matter =>
    cases head with
    | some head => cases deeper <;> exact List.cons_ne_nil _ _
    | none =>
      cases matter with
      | absent => exact absurd rfl spoken
      | text words => exact List.cons_ne_nil _ _
      | comment sign note => exact List.cons_ne_nil _ _
      | code sign expression =>
        exact absurd expression.kind_eq (inside _ (by simp [Form.tokens, Matter.tokens])).noCode
      | silent sign statement =>
        exact absurd statement.kind_eq (inside _ (by simp [Form.tokens, Matter.tokens])).noCode

/-- Lines without code that render by themselves may stand below a line of code, and what they
render to is known. -/
theorem below_of_rendered {depth : Nat} {body : Text} {tokens : List Token} {context : Context}
    {workspace later : Workspace} {value : Script.Value} (lexed : Lexer.lex body = .ok tokens)
    (plain : ∀ token ∈ tokens, Plain token) (present : rows body ≠ [])
    (deep : ∀ row ∈ rows body, depth < row.depth)
    (rendered : renderSource (.text body) context workspace = .ok value later) :
    ∃ lines, Below depth body lines ∧ (∀ text ∈ document [] lines, '\x00' ∉ text) ∧
      document [] lines ≠ [] ∧ value = .text (Text.join ['\n'] (document [] lines)) := by
  obtain ⟨lines, rfl, reads⟩ := lex_tokens lexed
  obtain ⟨_, program, statements, again, built, loaded⟩ := loads_of_rendered rendered
  cases lexed.symm.trans again
  have puts : Puts program.body (document [] lines) :=
    Program.ofLines_puts reads plain (ofTokens_lines reads _ ▸ built)
  have readable := readable_of_puts puts loaded
  obtain ⟨last, same⟩ := renderSource_puts lexed built puts readable workspace
  cases rendered.symm.trans same
  have entries : ∀ line ∈ lines, ∃ head matter, line.form = .entry head matter := by
    have opened := Builder.opening_indented reads present fun row member =>
      Nat.lt_of_le_of_lt (Nat.zero_le _) (deep row member)
    rw [ofTokens_lines reads, Program.ofLines, opened, Outcome.ok_bind] at built
    obtain ⟨last, ran, -⟩ := Outcome.bind_eq_ok.mp built
    exact Builder.entries_of_ran ran
  have filled : document [] lines ≠ [] := by
    obtain ⟨line, rest, rfl⟩ := List.exists_cons_of_ne_nil (reads.filled present)
    obtain ⟨row, _, shows⟩ := reads.shows (List.mem_cons_self ..)
    have here := Markup.texts_ne_nil shows (fun token member =>
      plain token (List.mem_append_left _ member)) (line.opens rest)
    rw [document]
    simp [here]
  exact ⟨lines, ⟨reads, present, deep, ⟨plain, entries⟩⟩, readable, filled, rfl⟩

end Stencil
