import Stencil.Proofs.Builder.Ancestors
import Stencil.Proofs.Builder.Sharing
import Stencil.Proofs.Module.Code
import Stencil.Proofs.Text.Unique

/-!
When the names that a generated function shares belong to a function around it.
-/

set_option autoImplicit false

namespace Stencil

open Markup

namespace Markup

/-- The lines behind the document type. -/
def bodyLines : List Markup.Line → List Markup.Line
  | ⟨none, .docType _ _⟩ :: rest => rest
  | lines => lines

/-- The blocks of code in the lines of a template. -/
def blocksOf (lines : List Markup.Line) : List CodeBlock :=
  (Forest.ofLines (bodyLines lines)).codeBlocks [outputName, "self".toList]

theorem CodeBlock.mem_shared {block : CodeBlock} {name : Text} :
    name ∈ block.shared ↔ name ∈ block.recorded ∧ name ∈ block.known := by
  rw [shared, Builder.sharedNames, Text.mem_sortUnique, List.mem_filter, List.contains_iff_mem]

end Markup

namespace Program

def renderLines (program : Program) : List CodeLine :=
  (opening program.contextType).drop 3 ++ Statement.codeLinesOf 1 program.body ++ [closing]

/-- The place of what stands in the function that renders. -/
def place (program : Program) : Script.Check.Place :=
  Statement.placeIn .module program.renderLines

/-- The functions that blocks have become, each with the functions around it. -/
def functions (program : Program) : List BlockFunction :=
  Statement.functionsOf program.place program.body

end Program

/-- Whether a name is local in a function around. -/
def BlockFunction.Owned (function : BlockFunction) (name : Text) : Prop :=
  ∃ owner ∈ function.place.owners, name ∈ owner

/-- Whether every name declared to belong to a function around does. -/
def BlockFunction.Resolves (function : BlockFunction) : Prop :=
  ∀ name ∈ function.shared, function.Owned name

namespace Builder

theorem Loud.body {lines : List Markup.Line} (loud : Loud lines) : Loud (bodyLines lines) := by
  unfold bodyLines
  split
  next => exact loud.tail
  next => exact loud

theorem opening_adds {lines others : List Markup.Line} {builder : Builder}
    (opened : opening lines = .ok (builder, others)) :
    others = bodyLines lines ∧ Adds initial builder [] [] ∧ builder.pending = [] := by
  unfold opening at opened
  split at opened
  next sign type rest =>
    split at opened
    next =>
      cases opened
      exact ⟨rfl, adds_line rfl rfl rfl, rfl⟩
    next => cases opened
  next lines other =>
    cases opened
    refine ⟨?_, Adds.refl _, rfl⟩
    unfold bodyLines
    split
    next sign type rest => exact absurd rfl (other sign type rest)
    next => rfl

end Builder

namespace Program

theorem functions_ofLines {contextType : Text} {rows : List Row} {lines : List Markup.Line}
    {program : Program} (reads : ReadsAll true rows lines)
    (built : ofLines lines contextType = .ok program) :
    program.functions.map (fun one => (one.shared, one.number)) =
      ((blocksOf lines).map CodeBlock.shared).zipIdx := by
  obtain ⟨⟨builder, others⟩, opened, built⟩ := Outcome.bind_eq_ok.mp built
  obtain ⟨last, ran, built⟩ := Outcome.bind_eq_ok.mp built
  cases built
  have starts := Builder.starts_of_opening reads opened
  obtain ⟨rfl, first, flat⟩ := Builder.opening_adds opened
  have loud := (Builder.loud_of_readsAll reads).body
  have emitted := (Builder.emitted_of_runLines (flat ▸ List.Pairwise.nil) (by simp [flat])
    (fun line same => (starts.1 line same).1) starts.2 loud (fun _ _ => Nat.zero_le _) ran).1
  have knows : builder.Knows [outputName, "self".toList] := by
    intro name
    simp [first.names, flat, Builder.initial]
  obtain ⟨statements, body, blocks⟩ := (first.trans (emitted.adds knows)).body
  have listed : (last.closeTo 0).body.reverse = statements := by
    rw [body]
    exact (List.append_nil _) ▸ List.reverse_reverse _
  rw [functions, listed]
  exact blocks _

theorem resolves_iff_of_shared {functions : List BlockFunction} {blocks : List CodeBlock}
    (same : functions.map BlockFunction.shared = blocks.map CodeBlock.shared) :
    (∀ one ∈ functions, one.Resolves) ↔
      ∀ pair ∈ functions.zip blocks, ∀ name, name ∈ pair.2.recorded → name ∈ pair.2.known →
        pair.1.Owned name := by
  induction functions generalizing blocks with
  | nil => simp
  | cons function rest ih =>
    cases blocks with
    | nil => cases same
    | cons block others =>
      obtain ⟨shared, same⟩ := List.cons.inj same
      have here : function.Resolves ↔
          ∀ name, name ∈ block.recorded → name ∈ block.known → function.Owned name := by
        simp only [BlockFunction.Resolves, shared, CodeBlock.mem_shared, and_imp]
      rw [List.forall_mem_cons, List.zip_cons_cons, List.forall_mem_cons, here, ih same]

/-- Each generated function shares the names that its block binds and that were bound around it
before. All of them belong to a function around it exactly if those names are local there, and are
not only bound in a definition that has names of its own. -/
theorem sharing_resolves_iff {source contextType : Text} {program : Program}
    (compiled : ofSource source contextType = .ok program) :
    ∃ lines, Lexer.lex source = .ok (lines.flatMap Markup.Line.tokens) ∧
      program.functions.map (fun one => (one.shared, one.number)) =
        ((blocksOf lines).map CodeBlock.shared).zipIdx ∧
      ((∀ one ∈ program.functions, one.Resolves) ↔
        ∀ pair ∈ program.functions.zip (blocksOf lines), ∀ name, name ∈ pair.2.recorded →
          name ∈ pair.2.known → pair.1.Owned name) := by
  obtain ⟨lines, lexed, reads, built⟩ := ofSource_ok compiled
  have functions := functions_ofLines reads built
  have shared := congrArg (List.map Prod.fst) functions
  rw [List.map_map, List.zipIdx_map_fst] at shared
  exact ⟨lines, lexed, functions, resolves_iff_of_shared shared⟩

instance (function : BlockFunction) (name : Text) : Decidable (function.Owned name) :=
  inferInstanceAs (Decidable (∃ owner ∈ function.place.owners, name ∈ owner))

instance (function : BlockFunction) : Decidable function.Resolves :=
  inferInstanceAs (Decidable (∀ name ∈ function.shared, function.Owned name))

open String (toList_ofList)

def assignmentSource : Text := "- x = 1\n= self.wrap\n  - x = 2".toList

/-- A name that the template binds before a block is owned by the function that renders. -/
theorem assignment_is_resolved :
    ∃ program, ofSource assignmentSource "Page".toList = .ok program ∧
      program.functions.map BlockFunction.shared = [["x".toList]] ∧
      ∃ lines, Lexer.lex assignmentSource = .ok (lines.flatMap Markup.Line.tokens) ∧
        ∀ pair ∈ program.functions.zip (blocksOf lines), ∀ name, name ∈ pair.2.recorded →
          name ∈ pair.2.known → pair.1.Owned name := by
  have resolved : (ofSource assignmentSource "Page".toList).toOption.map (fun program =>
      decide (program.functions.map BlockFunction.shared = [["x".toList]] ∧
        ∀ one ∈ program.functions, one.Resolves)) = some true := by
    rw [show assignmentSource = _ from toList_ofList]
    decide +kernel
  obtain ⟨program, compiled, both⟩ := Outcome.ok_of_map resolved
  have both := of_decide_eq_true both
  obtain ⟨lines, lexed, _, iff⟩ := sharing_resolves_iff compiled
  exact ⟨program, compiled, both.1, lines, lexed, iff.mp both.2⟩

def definitionSource : Text := "- def f():\n  - x = 1\n= self.wrap\n  - x = 2".toList

def isRejected (program : Program) : Bool :=
  !decide (∀ one ∈ program.functions, one.Resolves) &&
    Outcome.fault? (Script.loadModule program.code) == some .malformed

/-- A name that only a definition binds is declared to belong to a function around a block. -/
theorem definition_is_not_resolved :
    ∃ program, ofSource definitionSource "Page".toList = .ok program ∧
      ¬(∀ one ∈ program.functions, one.Resolves) ∧
      Script.loadModule program.code = .error .malformed := by
  have rejected : (ofSource definitionSource "Page".toList).toOption.map isRejected = some true := by
    have opened (contextType : Text) :=
      opening_of_chars contextType toList_ofList toList_ofList toList_ofList toList_ofList
    rw [show definitionSource = _ from toList_ofList]
    unfold isRejected
    simp only [code, codeLines, opened]
    decide +kernel
  obtain ⟨program, compiled, both⟩ := Outcome.ok_of_map rejected
  have both := Bool.and_eq_true_iff.mp both
  refine ⟨program, compiled, ?_, Outcome.eq_error_of_fault? (eq_of_beq both.2)⟩
  simpa using both.1

end Program

end Stencil
