import Stencil.Proofs.Module.Rendering
import Stencil.Proofs.Static.Building
import Stencil.Proofs.Static.Legible
import Stencil.Proofs.Static.Running

/-!
Templates without code render to their documents.
-/

set_option autoImplicit false

namespace Stencil

open Markup Script.Static Script.Module

namespace Program

variable {rows : List Row} {lines : List Markup.Line} {contextType : Text} {program : Program}

/-- Behind a document type the lines start as they would without it. -/
theorem opening_builds {builder : Builder} {others : List Markup.Line}
    (opened : Builder.opening lines = .ok (builder, others)) :
    (∃ texts, builder.Builds [] Builder.initial.names [] texts ∧
      document [] lines = texts ++ document [] others) ∧ others <:+ lines := by
  have initial : Builder.initial.Builds [] Builder.initial.names [] [] :=
    ⟨Puts.nil, .base, .nil, rfl⟩
  unfold Builder.opening at opened
  split at opened
  next sign type rest =>
    split at opened
    next declaration known =>
      cases opened
      have puts := Puts.piece ⟨false, declaration⟩ 0
      have shape (deeper : Bool) :
          (Markup.Line.mk none (.docType sign type)).texts deeper = [declaration] := by
        simp only [Markup.Line.texts, known, Option.getD_some]
      refine ⟨⟨[declaration], initial.emit puts, ?_⟩, List.suffix_cons _ _⟩
      rw [document, shape]
      rfl
    next => cases opened
  next =>
    cases opened
    exact ⟨⟨[], initial, rfl⟩, List.suffix_refl _⟩

theorem ofLines_puts (reads : ReadsAll true rows lines)
    (plain : ∀ token ∈ lines.flatMap Markup.Line.tokens, Plain token)
    (built : ofLines lines contextType = .ok program) : Puts program.body (document [] lines) := by
  obtain ⟨⟨builder, others⟩, opened, built⟩ := Outcome.bind_eq_ok.mp built
  obtain ⟨last, ran, built⟩ := Outcome.bind_eq_ok.mp built
  cases built
  obtain ⟨⟨texts, builds, same⟩, behind⟩ := opening_builds opened
  have starts := Builder.starts_of_opening reads opened
  have inside : ∀ token ∈ others.flatMap Markup.Line.tokens, Plain token := by
    intro token member
    obtain ⟨line, inside, spoken⟩ := List.mem_flatMap.mp member
    exact plain token (List.mem_flatMap.mpr ⟨line, behind.subset inside, spoken⟩)
  obtain ⟨closed, done, _, puts⟩ := builds.runLines starts.1 starts.2
    (fun _ _ top below => absurd below List.not_mem_nil) inside ran
  rw [same, done]
  exact puts

end Program

/-- A template renders the texts that its statements put out. -/
theorem renderSource_puts {source : Text} {tokens : List Token} {context : Context}
    {program : Program} {texts : List Text} (lexed : Lexer.lex source = .ok tokens)
    (compiled : Program.ofTokens tokens context.type.name = .ok program)
    (puts : Puts program.body texts) (readable : ∀ text ∈ texts, '\x00' ∉ text)
    (workspace : Workspace) :
    ∃ later, renderSource (.text source) context workspace =
      .ok (.text (Text.join ['\n'] texts)) later := by
  obtain ⟨outputs, entries, written, same, rfl, short⟩ := puts
  have good : ∀ entry ∈ entries, entry.Readable := fun entry member =>
    Entry.readable_of_shown (readable _ (List.mem_map_of_mem member))
  have reads (reach : Nat) := written ▸ reads_entries same good reach 0
  have large := length_code (reads 0)
  have reach : program.code.length + 1 = program.code.length - 2 + 3 := by
    rw [Script.Lexer.maximalIndents] at large
    omega
  have renders := renderSource_apply lexed compiled (reach ▸ reads _) (by decide)
    (binds_entries 0 entries) (Nat.zero_le _) List.not_mem_nil workspace
    (renders_entries short _ _)
  rwa [ofPoints_joined] at renders

/-- A template whose program is known renders without a run of its code. -/
theorem renderSource_entries {source : Text} {context : Context} {entries : List Entry}
    (built : (Program.ofSource source context.type.name).toOption.map
      (fun program => program.body.map Statement.expression?) =
        some (entries.map fun entry => some entry.code))
    (fine : ∀ entry ∈ entries, entry.others.length ≤ 3 ∧ '\x00' ∉ entry.shown)
    (workspace : Workspace) :
    ∃ later, renderSource (.text source) context workspace =
      .ok (.text (Text.join ['\n'] (entries.map Entry.shown))) later := by
  obtain ⟨program, compiled, same⟩ := Outcome.ok_of_map built
  obtain ⟨tokens, lexed, compiled⟩ := Outcome.bind_eq_ok.mp compiled
  exact renderSource_puts lexed compiled (.of_expressions same fun entry member => (fine entry member).1)
    (List.forall_mem_map.mpr fun entry member => (fine entry member).2) workspace

/-- A template without code renders, for every context, to the document of its lines. -/
theorem renderSource_static {source : Text} {tokens : List Token} {context : Context}
    {program : Program} (lexed : Lexer.lex source = .ok tokens)
    (compiled : Program.ofSource source context.type.name = .ok program)
    (static : IsStatic tokens) :
    ∃ lines, tokens = lines.flatMap Markup.Line.tokens ∧ ReadsAll true (rows source) lines ∧
      ∀ workspace, ∃ later, renderSource (.text source) context workspace =
        .ok (.text (Text.join ['\n'] (document [] lines))) later := by
  rw [Program.ofSource, lexed, Outcome.ok_bind] at compiled
  obtain ⟨lines, rfl, reads⟩ := lex_tokens lexed
  have built := compiled
  rw [ofTokens_lines reads] at built
  have puts := Program.ofLines_puts reads (fun token member => static.plain member) built
  have readable := readable_document (List.forall_mem_nil _) static.noNul
  exact ⟨lines, rfl, reads, renderSource_puts lexed compiled puts readable⟩

open String (toList_ofList)

def staticSource : Text := "!!! 5\n%p.a b=\"it\\'s\"\n    c & 'd'\n  %i e\n / f".toList

def staticContext : Context := ⟨.namespaceType, .none⟩

def staticText : Text :=
  ("<!DOCTYPE html>\n<p class=\"a\" b=\"it's\">\n    c &amp; 'd'\n  <i>e</i>\n" ++
    " <!-- f -->\n</p>").toList

def staticEntries : List Entry :=
  let plain (text : String) : Entry := ⟨⟨false, text.toList⟩, []⟩
  [plain "<!DOCTYPE html>", plain "<p class=\"a\" b=\"it's\">", ⟨⟨true, "    c & 'd'".toList⟩, []⟩,
    ⟨⟨false, "  ".toList⟩, [⟨false, "<i>".toList⟩, ⟨true, "e".toList⟩, ⟨false, "</i>".toList⟩]⟩,
    plain " <!-- f -->", plain "</p>"]

theorem renderSource_static_nested :
    ∃ lines later, ReadsAll true (rows staticSource) lines ∧
      Text.join ['\n'] (document [] lines) = staticText ∧
      renderSource (.text staticSource) staticContext (.ofTree ⟨[], []⟩) =
        .ok (.text (Text.join ['\n'] (document [] lines))) later := by
  have lexes : (Lexer.lex staticSource).toOption.map (fun tokens => decide (IsStatic tokens)) =
      some true := by
    rw [show staticSource = _ from toList_ofList]
    decide +kernel
  have built : (Program.ofSource staticSource staticContext.type.name).toOption.map
      (fun program => program.body.map Statement.expression?) =
        some (staticEntries.map fun entry => some entry.code) := by
    rw [show staticSource = _ from toList_ofList]
    decide +kernel
  obtain ⟨tokens, lexed, static⟩ := Outcome.ok_of_map lexes
  obtain ⟨program, compiled, _⟩ := Outcome.ok_of_map built
  obtain ⟨lines, same, reads, renders⟩ :=
    renderSource_static lexed compiled (of_decide_eq_true static)
  obtain ⟨later, rendered⟩ := renders (.ofTree ⟨[], []⟩)
  refine ⟨lines, later, reads, ?_, rendered⟩
  obtain ⟨_, shown⟩ := @renderSource_entries _ staticContext _ built (by decide +kernel)
    (.ofTree ⟨[], []⟩)
  have joined : Text.join ['\n'] (staticEntries.map Entry.shown) = staticText := by
    rw [show staticText = _ from Text.toList_append_of_chars toList_ofList toList_ofList]
    decide +kernel
  rw [← joined]
  exact Script.Value.text.inj (EStateM.Result.ok.inj (rendered.symm.trans shown)).1

end Stencil
