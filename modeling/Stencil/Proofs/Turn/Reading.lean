import Stencil.Program.Builder
import Stencil.Proofs.Outcome

/-!
A step of the builder in two halves: it reads a turn from the tokens, and takes the turn. What is
read depends on the builder by its depth only.
-/

set_option autoImplicit false

namespace Stencil.Builder

/-- An indentation, a tag and a content, each of them optional, and whether the line that they are
on ends what is on top of the stack. -/
structure Turn where
  indent : Option Nat
  tag : Option TagText
  content : Content
  ends : Bool

def indentation? (tokens : List Token) : Option Nat × List Token :=
  match take? [.whiteSpace] tokens with
  | none => (none, tokens)
  | some (token, rest) => (some token.content.length, rest)

/-- The builder behind an indentation. -/
def shift (builder : Builder) : Option Nat → Builder
  | none => builder
  | some depth => (builder.closeTo depth).push (.indent depth)

def readTurn (builder : Builder) (tokens : List Token) : Except CompileError (Turn × List Token) := do
  let (indent, rest) := indentation? tokens
  let (tag, rest) ← tag? rest
  let text ← tag.mapM tagText
  let (content, rest) ← (builder.shift indent).content rest
  return (⟨indent, text, content, (builder.shift indent).endsHere rest⟩, rest)

/-- What a tag and a content add at the depth of the line. -/
def addTurn (builder : Builder) (turn : Turn) : Except CompileError Builder :=
  match turn.tag with
  | none => builder.add turn.content
  | some text =>
    match turn.content, turn.ends with
    | .absent, true => .ok (builder.emitLine .safe (text.start ++ text.stop))
    | .output kind body, true => .ok (builder.emitLine .expression (fused text kind body))
    | content, _ => (builder.openTag text).add content

def takeTurn (builder : Builder) (turn : Turn) : Except CompileError Builder :=
  (builder.shift turn.indent).addTurn turn

theorem indented_eq (builder : Builder) (tokens : List Token) :
    builder.indented tokens =
      (builder.shift (indentation? tokens).1, (indentation? tokens).2) := by
  rw [indented, indentation?]
  cases take? [.whiteSpace] tokens <;> rfl

/-- Where the line ends there is no content. -/
theorem content_of_endsHere {builder : Builder} {tokens : List Token}
    (ends : builder.endsHere tokens = true) : builder.content tokens = .ok (.absent, tokens) := by
  cases tokens with
  | nil => rfl
  | cons token rest =>
    have kind : token.kind = .whiteSpace := by
      simp only [endsHere, Bool.and_eq_true, beq_iff_eq] at ends
      exact ends.1
    simp [content, kind]

/-- Content that is there takes a token. -/
theorem content_absent {builder : Builder} {tokens rest : List Token}
    (read : builder.content tokens = .ok (.absent, rest)) : rest = tokens := by
  unfold content at read
  split at read
  next =>
    cases read
    rfl
  next token others =>
    split at read
    case h_6 =>
      cases read
      rfl
    case h_1 =>
      obtain ⟨found, _, read⟩ := Outcome.bind_eq_ok.mp read
      simp only at read
      split at read <;> cases read
    case h_2 =>
      obtain ⟨found, _, read⟩ := Outcome.bind_eq_ok.mp read
      simp only at read
      split at read <;> cases read
    case h_3 =>
      obtain ⟨found, _, read⟩ := Outcome.bind_eq_ok.mp read
      cases read
    all_goals cases read

theorem step_eq (builder : Builder) (tokens : List Token) :
    builder.step tokens = (do
      let (turn, rest) ← builder.readTurn tokens
      let next ← builder.takeTurn turn
      return (next, rest)) := by
  simp only [step, indented_eq, readTurn]
  generalize (indentation? tokens).2 = behind
  generalize (indentation? tokens).1 = indent
  cases tagged : tag? behind with
  | error fault => rfl
  | ok found =>
    obtain ⟨tag, rest⟩ := found
    cases tag with
    | none =>
      simp only [Outcome.ok_bind, Option.mapM_none, pure, Except.pure]
      cases (builder.shift indent).content rest <;> rfl
    | some tag =>
      cases written : tagText tag with
      | error fault => simp [written]
      | ok text =>
        by_cases ends : (builder.shift indent).endsHere rest = true
        next => simp [written, ends, content_of_endsHere ends, takeTurn, addTurn, pure, Except.pure]
        next =>
          cases read : (builder.shift indent).content rest with
          | error fault => simp [written, ends, read]
          | ok found =>
            obtain ⟨content, after⟩ := found
            cases content with
            | absent =>
              cases content_absent read
              simp [written, ends, read, takeTurn, addTurn, addTagged, pure, Except.pure]
            | output kind body =>
              by_cases closes : (builder.shift indent).endsHere after = true <;>
                simp [written, ends, read, takeTurn, addTurn, addTagged, closes, pure, Except.pure]
            | _ =>
              simp [written, ends, read, takeTurn, addTurn, addTagged, pure, Except.pure]

/-! ### All turns -/

def takeTurns (builder : Builder) : List Turn → Except CompileError Builder
  | [] => .ok builder
  | turn :: rest => do
    let next ← builder.takeTurn turn
    next.takeTurns rest

/-- The turns of a run. -/
def turns (builder : Builder) (tokens : List Token) : Except CompileError (List Turn) :=
  match tokens with
  | [] => .ok []
  | token :: others => do
    let (turn, rest) ← builder.readTurn (token :: others)
    let next ← builder.takeTurn turn
    if rest.length ≤ others.length then do
      let later ← next.turns rest
      return turn :: later
    else .error (.unexpectedToken token)
termination_by tokens.length

/-- A document type is a turn of its own, before all others. -/
def docTurns (tokens : List Token) : Except CompileError (List Turn × List Token) :=
  match take? [.docTypeIdentifier] tokens with
  | none => .ok ([], tokens)
  | some (identifier, rest) =>
    let (type, rest) := match take? [.docType] rest with
      | none => (none, rest)
      | some (type, rest) => (some type, rest)
    match DocType.declaration? (type.map (·.content)) with
    | some declaration =>
      .ok ([⟨none, none, .output .safe (Fragment.literalBody declaration), false⟩], rest)
    | none => .error (.unexpectedDocType (type.getD identifier))

theorem takeTurns_append (builder : Builder) (first second : List Turn) :
    builder.takeTurns (first ++ second) = (do
      let between ← builder.takeTurns first
      between.takeTurns second) := by
  induction first generalizing builder with
  | nil => rfl
  | cons turn rest ih =>
    rw [List.cons_append, takeTurns, takeTurns]
    cases builder.takeTurn turn with
    | error fault => rfl
    | ok next => exact ih next

theorem run_eq_turns (builder : Builder) (tokens : List Token) :
    builder.run tokens = (do
      let all ← builder.turns tokens
      builder.takeTurns all) := by
  induction size : tokens.length using Nat.strongRecOn generalizing builder tokens with
  | ind size ih =>
    cases tokens with
    | nil => rw [run, turns]; rfl
    | cons token others =>
      rw [run, turns, step_eq]
      cases read : builder.readTurn (token :: others) with
      | error fault => rfl
      | ok found =>
        obtain ⟨turn, rest⟩ := found
        simp only [Outcome.ok_bind]
        cases taken : builder.takeTurn turn with
        | error fault => rfl
        | ok next =>
          simp only [Outcome.ok_bind, pure, Except.pure]
          by_cases shorter : rest.length ≤ others.length
          next =>
            have less : rest.length < (token :: others).length := by
              rw [List.length_cons]
              omega
            rw [if_pos shorter, if_pos shorter, ih _ (size ▸ less) next rest rfl]
            cases next.turns rest with
            | error fault => rfl
            | ok later => simp only [Outcome.ok_bind, takeTurns, taken]
          next =>
            rw [if_neg shorter, if_neg shorter]
            rfl

theorem docType_eq (builder : Builder) (tokens : List Token) :
    builder.docType tokens = (do
      let (first, rest) ← docTurns tokens
      let next ← builder.takeTurns first
      return (next, rest)) := by
  rw [docType, docTurns]
  cases take? [.docTypeIdentifier] tokens with
  | none => rfl
  | some found =>
    obtain ⟨identifier, rest⟩ := found
    cases typed : take? [.docType] rest with
    | none =>
      simp only [typed, Option.map_none]
      cases DocType.declaration? none <;> rfl
    | some found =>
      simp only [typed, Option.map_some]
      cases DocType.declaration? (some found.1.content) <;> rfl

end Stencil.Builder

namespace Stencil.Program

/-- All turns that a sequence of tokens is made of. -/
def turns (tokens : List Token) : Except CompileError (List Builder.Turn) := do
  let (first, rest) ← Builder.docTurns tokens
  let builder ← Builder.initial.takeTurns first
  let later ← builder.turns rest
  return first ++ later

theorem ofTokens_eq (tokens : List Token) (contextType : Text) :
    ofTokens tokens contextType = (do
      let all ← turns tokens
      let builder ← Builder.initial.takeTurns all
      return ⟨contextType, (builder.closeTo 0).body.reverse⟩) := by
  rw [ofTokens, turns, Builder.docType_eq]
  cases Builder.docTurns tokens with
  | error fault => rfl
  | ok found =>
    obtain ⟨first, rest⟩ := found
    simp only [Outcome.ok_bind]
    cases begun : Builder.initial.takeTurns first with
    | error fault => rfl
    | ok builder =>
      simp only [Outcome.ok_bind, pure, Except.pure, Builder.run_eq_turns]
      cases builder.turns rest with
      | error fault => rfl
      | ok later => simp only [Outcome.ok_bind, Builder.takeTurns_append, begun]

/-- A program is made by taking all turns and closing what is still open. -/
theorem ofTokens_ok {tokens : List Token} {contextType : Text} {program : Program}
    (compiled : ofTokens tokens contextType = .ok program) :
    ∃ all last, turns tokens = .ok all ∧ Builder.initial.takeTurns all = .ok last ∧
      program.body = (last.closeTo 0).body.reverse := by
  rw [ofTokens_eq] at compiled
  obtain ⟨all, read, compiled⟩ := Outcome.bind_eq_ok.mp compiled
  obtain ⟨last, taken, compiled⟩ := Outcome.bind_eq_ok.mp compiled
  cases compiled
  exact ⟨all, last, read, taken, rfl⟩

end Stencil.Program
