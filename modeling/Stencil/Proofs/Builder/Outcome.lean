import Stencil.Proofs.Builder.Program
import Stencil.Proofs.Markup.Trouble

/-!
What becomes of a source: every line that lexes is understood, but for a document type behind the
first line and for silent code that is nested too deeply.
-/

set_option autoImplicit false

namespace Stencil

open Markup

namespace Builder

/-- An outcome is the given fault, or a result where there is none. -/
def Meets {α : Type} (fault : Option CompileError) (outcome : Except CompileError α) : Prop :=
  match fault with
  | some fault => outcome = .error fault
  | none => ∃ value, outcome = .ok value

theorem Meets.andThen {α β : Type} {fault : Option CompileError} {outcome : Except CompileError α}
    (meets : Meets fault outcome) (next : α → β) :
    Meets fault (outcome >>= fun value => .ok (next value)) := by
  cases fault with
  | some fault =>
    rw [show outcome = .error fault from meets]
    exact Outcome.error_bind fault
  | none =>
    obtain ⟨value, rfl⟩ := meets
    exact ⟨next value, rfl⟩

theorem bind_meets {code : Text} (builder : Builder) (readable : Readable code) :
    Meets (depthFault? code) (builder.bind code) := by
  rcases Script.assignedNames_readable readable with ⟨names, bound⟩ | deep
  · simp only [bind, depthFault?, bound]
    exact ⟨_, rfl⟩
  · simp only [bind, depthFault?, deep]
    rfl

theorem writeLine_meets {first : Bool} {row : Row} {line : Markup.Line} (builder : Builder)
    (reads : Reads first row line) (readable : Readable row.text) (deeper : Bool)
    (runs : Runs line) :
    Meets (row.trouble? first deeper) (builder.writeLine deeper line) := by
  have shows := reads.shows
  cases form : line.form with
  | docType sign type =>
    rw [form] at shows
    have margin : (first && row.depth == 0) = false := by
      rcases runs with indented | ⟨head, matter, other⟩
      · rw [reads.indented] at indented
        simpa only [Bool.not_eq_true'] using indented
      · rw [form] at other
        cases other
    simp only [Row.trouble?, shows.docType.1, margin, Bool.not_false, Bool.and_self, if_true, Meets,
      writeLine, form, shows.docType.2.1]
  | entry head matter =>
    rw [form] at shows
    have other : row.isDocType = false := shows.docType
    have said : matter.silent? = row.silent? := shows.silent
    simp only [Row.trouble?, other, Bool.false_and, Bool.false_eq_true, if_false, writeLine, form]
    cases matter with
    | silent sign statement =>
      cases head with
      | some head => cases shows.loud
      | none =>
        have silent : row.statement? deeper =
            some (if deeper then headerOf statement.val.content else statement.val.content) := by
          rw [Row.statement?, ← said]
          rfl
        have bound := bind_meets (builder.enter line) (readable_statement readable silent)
        rw [silent]
        cases deeper with
        | false => exact bound.andThen _
        | true => exact bound.andThen _
    | _ =>
      have quiet : row.statement? deeper = none := by
        rw [Row.statement?, ← said]
        rfl
      rw [quiet]
      cases head with
      | none => cases deeper <;> exact ⟨_, rfl⟩
      | some head => cases deeper <;> exact ⟨_, rfl⟩

theorem runLines_meets {first : Bool} {rows : List Row} {lines : List Markup.Line}
    (builder : Builder) (reads : ReadsAll first rows lines)
    (readable : ∀ row ∈ rows, Readable row.text) (runs : ∀ line ∈ lines.head?, Runs line) :
    Meets (firstTrouble? first rows) (builder.runLines lines) := by
  induction reads generalizing builder with
  | nil => exact ⟨builder, rfl⟩
  | cons one others ih =>
    rename_i first row line rows lines
    have opens : line.opens lines = row.opens rows := by
      cases others with
      | nil => rfl
      | cons next _ => simp [Markup.Line.opens, Row.opens, one.depth, next.depth]
    have now := writeLine_meets builder one (readable row (List.mem_cons_self ..))
      (row.opens rows) (runs line rfl)
    rw [runLines, firstTrouble?, opens]
    cases trouble : row.trouble? first (row.opens rows) with
    | some fault =>
      rw [trouble] at now
      rw [show builder.writeLine (row.opens rows) line = .error fault from now]
      rfl
    | none =>
      rw [trouble] at now
      obtain ⟨next, written⟩ := now
      rw [written]
      refine ih next (fun other member => readable other (List.mem_cons_of_mem _ member)) ?_
      exact fun following same =>
        .inl (indented_of_readsAll others following (List.mem_of_mem_head? same))

end Builder

namespace Program

theorem ofLines_outcome {rows : List Row} {lines : List Markup.Line} (contextType : Text)
    (reads : ReadsAll true rows lines) (readable : ∀ row ∈ rows, Readable row.text) :
    (∃ token : Token, Refused rows token.content ∧
        ofLines lines contextType = .error (.unexpectedDocType token)) ∨
      (∀ name, ¬Refused rows name) ∧
        Builder.Meets (firstTrouble? true rows) (ofLines lines contextType) := by
  cases reads with
  | nil => exact .inr ⟨by simp [Refused], ⟨_, rfl⟩⟩
  | cons one others =>
    rename_i row line rows lines
    have shows := one.shows
    rcases Builder.runs_or_docType line with runs | ⟨sign, type, rfl⟩
    · refine .inr ⟨?_, ?_⟩
      · rintro name ⟨first, same, flush, starts, _⟩
        cases same
        rcases runs with indented | ⟨head, matter, form⟩
        · rw [one.indented, flush] at indented
          cases indented
        · rw [form] at shows
          exact absurd starts (by simp [show row.isDocType = false from shows.docType])
      · rw [ofLines, Builder.opening_runs runs]
        refine (Builder.runLines_meets .initial (.cons one others) readable ?_).andThen _
        rintro _ ⟨⟩
        exact runs
    · have flush : row.depth = 0 := one.depth.symm
      obtain ⟨starts, _, named⟩ := shows.docType
      cases known : DocType.declaration? row.docTypeName? with
      | none =>
        cases type with
        | none =>
          rw [← named] at known
          cases known
        | some type =>
          refine .inl ⟨type.val, ⟨row, rfl, flush, starts, named.symm, ?_⟩, ?_⟩
          · rw [← known, ← named]
            rfl
          · simp only [ofLines, Builder.opening, named, known, Option.map_some, Option.getD_some,
              Outcome.error_bind]
      | some declaration =>
        refine .inr ⟨?_, ?_⟩
        · rintro name ⟨first, same, _, _, asked, unknown⟩
          cases same
          rw [asked, unknown] at known
          cases known
        · simp only [ofLines, Builder.opening, named, known, Outcome.ok_bind, firstTrouble?,
            trouble?_docType flush starts, Option.none_or]
          refine (Builder.runLines_meets _ others
            (fun other member => readable other (List.mem_cons_of_mem _ member)) ?_).andThen _
          exact fun following same =>
            .inl (indented_of_readsAll others following (List.mem_of_mem_head? same))

def Lexes (source : Text) : Prop := ∃ tokens, Lexer.lex source = .ok tokens

/-- All that can become of a source, and when. -/
inductive Outcome (source contextType : Text) : Prop where
  | invalid (cause : LexicalFault) (line column : Nat)
      (failed : Lexer.lex source = .error (.invalidSyntax cause line column))
      (ends : ofSource source contextType = .error (.invalidSyntax cause line column))
  | docType (lexes : Lexes source) (token : Token) (refused : Refused (rows source) token.content)
      (ends : ofSource source contextType = .error (.unexpectedDocType token))
  | token (lexes : Lexes source) (known : ∀ name, ¬Refused (rows source) name) (place : Nat)
      (row : Row) (found : (rows source)[place]? = some row)
      (wrong : Misplaced (rows source) place) (before : Sound (rows source) place)
      (ends : ofSource source contextType = .error (.unexpectedToken row.docTypeSign))
  | deep (lexes : Lexes source) (known : ∀ name, ¬Refused (rows source) name) (place : Nat)
      (deep : TooDeep (rows source) place) (before : Sound (rows source) place)
      (ends : ofSource source contextType = .error .deepCode)
  | done (lexes : Lexes source) (known : ∀ name, ¬Refused (rows source) name)
      (sound : ∀ place, Sound (rows source) place) (program : Program)
      (ends : ofSource source contextType = .ok program)

theorem outcome (source contextType : Text) (readable : Readable source) :
    Outcome source contextType := by
  cases lexed : Lexer.lex source with
  | error fault =>
    obtain ⟨cause, line, column, rfl⟩ := lexRows_error (lex_eq source ▸ lexed)
    exact .invalid cause line column lexed (by rw [ofSource, lexed, Outcome.error_bind])
  | ok tokens =>
    have lexes : Lexes source := ⟨tokens, lexed⟩
    obtain ⟨lines, _, reads, same⟩ := ofSource_lines lexed contextType
    rcases ofLines_outcome contextType reads fun row => readable_row readable with
      ⟨token, refused, ends⟩ | ⟨known, meets⟩
    · exact .docType lexes token refused (same.trans ends)
    · cases trouble : firstTrouble? true (rows source) with
      | none =>
        rw [trouble] at meets
        obtain ⟨program, built⟩ := meets
        refine .done lexes known (fun place earlier _ => ?_) program (same.trans built)
        exact troubleAt?_eq_none.mp (firstTrouble?_eq_none.mp trouble earlier)
      | some fault =>
        rw [trouble] at meets
        have ends := same.trans (show ofLines lines contextType = .error fault from meets)
        obtain ⟨place, found, before⟩ := firstTrouble?_eq_some.mp trouble
        have before : Sound (rows source) place := fun earlier bound =>
          troubleAt?_eq_none.mp (before earlier bound)
        rcases troubleAt?_eq_some.mp found with ⟨row, at_place, wrong, rfl⟩ | ⟨deep, rfl⟩
        · exact .token lexes known place row at_place wrong before ends
        · exact .deep lexes known place deep before ends

end Program

end Stencil
