import Stencil.Proofs.Builder.Run
import Stencil.Proofs.Markup.Lexing

/-!
The program of a source, made of the source's lines.
-/

set_option autoImplicit false

namespace Stencil

open Markup

namespace Builder

/-- The builder behind a document type, if the first line is one, and the lines that are left. -/
def opening (lines : List Markup.Line) : Except CompileError (Builder × List Markup.Line) :=
  match lines with
  | ⟨none, .docType sign type⟩ :: rest =>
    match DocType.declaration? (type.map (·.val.content)) with
    | some declaration =>
      .ok (initial.emitLine .safe (Fragment.literalBody declaration), rest)
    | none => .error (.unexpectedDocType ((type.map Subtype.val).getD sign.val))
  | lines => .ok (initial, lines)

end Builder

namespace Program

def ofLines (lines : List Markup.Line) (contextType : Text) : Except CompileError Program := do
  let (builder, rest) ← Builder.opening lines
  let builder ← builder.runLines rest
  return ⟨contextType, (builder.closeTo 0).body.reverse⟩

end Program

namespace Markup

theorem indented_of_readsAll {rows : List Row} {lines : List Markup.Line}
    (reads : ReadsAll false rows lines) : Builder.Indented lines := by
  generalize first : false = later at reads
  induction reads with
  | nil => exact fun line member => nomatch member
  | cons one others ih =>
    subst first
    intro line member
    rcases List.mem_cons.mp member with rfl | member
    · exact one.indented
    · exact ih rfl line member

end Markup

namespace Builder

/-- Where a document type stands unindented, it is taken before the run begins. -/
theorem docType_first {sign : TokenOf [.docTypeIdentifier]} {type : Option (TokenOf [.docType])}
    {rest : List Markup.Line} (indented : Indented rest) :
    initial.docType ((⟨none, .docType sign type⟩ :: rest).flatMap Markup.Line.tokens) = (do
      let (builder, others) ← opening (⟨none, .docType sign type⟩ :: rest)
      return (builder, others.flatMap Markup.Line.tokens)) := by
  have ends := lineEnds_of_indented indented
  cases type with
  | none =>
    have other : take? [.docType] (rest.flatMap Markup.Line.tokens) = none :=
      take?_other ends (by decide)
    simp only [List.flatMap_cons, Markup.Line.tokens, Form.tokens, Option.toList_none,
      List.map_nil, List.nil_append, List.cons_append, docType, take?_mem, other, opening,
      Option.map_none]
    cases DocType.declaration? none <;> rfl
  | some type =>
    simp only [List.flatMap_cons, Markup.Line.tokens, Form.tokens, Option.toList_some,
      Option.toList_none, List.map_nil, List.map_cons, List.nil_append, List.cons_append, docType,
      take?_mem, opening, Option.map_some]
    cases DocType.declaration? (some type.val.content) <;> rfl

theorem docType_runs {line : Markup.Line} (rest : List Token) (present : line.tokens ≠ [])
    (runs : Runs line) :
    initial.docType (line.tokens ++ rest) = .ok (initial, line.tokens ++ rest) := by
  have kind : ∀ token ∈ line.tokens.head?, token.kind ≠ .docTypeIdentifier := by
    cases indent : line.indent with
    | some token =>
      intro first found
      have same : first = token.val := by
        simpa [Markup.Line.tokens, indent, eq_comm] using found
      simp [same, token.kind_eq]
    | none =>
      rcases runs with indented | ⟨head, matter, form⟩
      · simp [indent] at indented
      · simpa [Markup.Line.tokens, indent, form] using (leads_entry head matter).other (by decide)
  cases tokens : line.tokens with
  | nil => exact absurd tokens present
  | cons token more =>
    have apart : token.kind ≠ .docTypeIdentifier := kind token (by simp [tokens])
    simp [docType, take?, apart]

theorem opening_runs {line : Markup.Line} {rest : List Markup.Line} (runs : Runs line) :
    opening (line :: rest) = .ok (initial, line :: rest) := by
  obtain ⟨indent, form⟩ := line
  cases indent with
  | some token => rfl
  | none =>
    rcases runs with indented | ⟨head, matter, rfl⟩
    · cases indented
    · rfl

theorem runs_or_docType (line : Markup.Line) :
    Runs line ∨ ∃ sign type, line = ⟨none, .docType sign type⟩ := by
  obtain ⟨indent, form⟩ := line
  cases indent with
  | some token => exact .inl (.inl rfl)
  | none =>
    cases form with
    | docType sign type => exact .inr ⟨sign, type, rfl⟩
    | entry head matter => exact .inl (.inr ⟨head, matter, rfl⟩)

variable {rows : List Row} {lines : List Markup.Line}

theorem fits_initial {row : Row} {line : Markup.Line} (one : Reads true row line) :
    initial.Fits line := by
  by_cases indented : line.indent.isSome = true
  next => exact .inl indented
  next => exact .inr ⟨rfl, one.shows.spoken⟩

theorem docType_lines (reads : ReadsAll true rows lines) :
    initial.docType (lines.flatMap Markup.Line.tokens) = (do
      let (builder, others) ← opening lines
      return (builder, others.flatMap Markup.Line.tokens)) := by
  cases reads with
  | nil => rfl
  | cons one others =>
    rename_i row line rows lines
    rcases runs_or_docType line with runs | ⟨sign, type, rfl⟩
    · rw [List.flatMap_cons, docType_runs _ (tokens_ne_nil (fits_initial one)) runs,
        opening_runs runs]
      rfl
    · exact docType_first (indented_of_readsAll others)

/-- The lines that are left behind the document type can be run. -/
theorem starts_of_opening (reads : ReadsAll true rows lines) {builder : Builder}
    {others : List Markup.Line} (opened : opening lines = .ok (builder, others)) :
    (∀ line ∈ others.head?, builder.Starts line) ∧ Indented others.tail := by
  cases reads with
  | nil =>
    cases opened
    exact ⟨by simp, by simp [Indented]⟩
  | cons one more =>
    rename_i row line rows lines
    have indented := indented_of_readsAll more
    rcases runs_or_docType line with runs | ⟨sign, type, rfl⟩
    · rw [opening_runs runs] at opened
      cases opened
      refine ⟨fun first same => ?_, indented⟩
      cases same
      exact ⟨fits_initial one, runs⟩
    · simp only [opening] at opened
      split at opened
      next =>
        cases opened
        refine ⟨fun first same => starts_of_indented _ ?_, fun other member => ?_⟩
        · exact indented first (List.mem_of_mem_head? same)
        · exact indented other (List.mem_of_mem_tail member)
      next => cases opened

end Builder

theorem ofTokens_lines {rows : List Row} {lines : List Markup.Line}
    (reads : ReadsAll true rows lines) (contextType : Text) :
    Program.ofTokens (lines.flatMap Markup.Line.tokens) contextType =
      Program.ofLines lines contextType := by
  rw [Program.ofTokens, Builder.docType_lines reads, Program.ofLines]
  cases opened : Builder.opening lines with
  | error fault => rfl
  | ok found =>
    obtain ⟨builder, others⟩ := found
    have starts := Builder.starts_of_opening reads opened
    simp only [Outcome.ok_bind, pure, Except.pure, Builder.run_lines starts.1 starts.2]

theorem ofSource_lines {source : Text} {tokens : List Token} (lexed : Lexer.lex source = .ok tokens)
    (contextType : Text) :
    ∃ lines, tokens = lines.flatMap Markup.Line.tokens ∧ ReadsAll true (rows source) lines ∧
      Program.ofSource source contextType = Program.ofLines lines contextType := by
  obtain ⟨lines, rfl, reads⟩ := lex_tokens lexed
  refine ⟨lines, rfl, reads, ?_⟩
  rw [Program.ofSource, lexed, Outcome.ok_bind, ofTokens_lines reads]

theorem ofSource_ok {source contextType : Text} {program : Program}
    (compiled : Program.ofSource source contextType = .ok program) :
    ∃ lines, Lexer.lex source = .ok (lines.flatMap Markup.Line.tokens) ∧
      ReadsAll true (rows source) lines ∧ Program.ofLines lines contextType = .ok program := by
  obtain ⟨tokens, lexed, _⟩ := Outcome.bind_eq_ok.mp compiled
  obtain ⟨lines, rfl, reads, built⟩ := ofSource_lines lexed contextType
  exact ⟨lines, lexed, reads, built ▸ compiled⟩

end Stencil
