import Stencil.Proofs.Builder.Line

/-!
A run over tokens is a run over lines, one step a line.
-/

set_option autoImplicit false

namespace Stencil

open Markup

/-- What a line has the builder add, with or without deeper lines below it. -/
def Markup.Matter.content (deeper : Bool) : Matter → Builder.Content
  | absent => .absent
  | text words => .output .escaped (Fragment.literalBody words.val.content)
  | code _ expression =>
    if deeper then .call expression.val.content
    else .output .expression (Fragment.ofExpression expression.val.content false)
  | silent _ statement =>
    if deeper then .block (Builder.headerOf statement.val.content)
    else .statement statement.val.content
  | comment _ note => Builder.comment note.val

namespace Builder

/-- The builder at the tag or the content of a line. -/
def enter (builder : Builder) (line : Markup.Line) : Builder :=
  match line.indent with
  | none => builder
  | some token =>
    (builder.closeTo token.val.content.length).push (.indent token.val.content.length)

def write (builder : Builder) (deeper : Bool) (head : Option Head) (matter : Matter) :
    Except CompileError Builder :=
  match head with
  | none => builder.add (matter.content deeper)
  | some head =>
    match matter.content deeper, deeper with
    | .absent, false => .ok (builder.emitLine .safe (head.text.start ++ head.text.stop))
    | .output kind body, false => .ok (builder.emitLine .expression (fused head.text kind body))
    | content, _ => (builder.openTag head.text).add content

/-- A document type can only stand before all lines. -/
def writeLine (builder : Builder) (deeper : Bool) (line : Markup.Line) : Except CompileError Builder :=
  match line.form with
  | .docType sign _ => .error (.unexpectedToken sign.val)
  | .entry head matter => (builder.enter line).write deeper head matter

/-- The builder as it starts on the tag or the content of a line, and as it is behind the line. -/
structure Passage where
  entered : Builder
  left : Builder

/-- The lines that a run passes. -/
def passages (builder : Builder) (tokens : List Token) : Except CompileError (List Passage) :=
  match tokens with
  | [] => .ok []
  | token :: others => do
    let (next, rest) ← builder.step (token :: others)
    if rest.length ≤ others.length then do
      let later ← next.passages rest
      return ⟨(builder.indented (token :: others)).1, next⟩ :: later
    else .error (.unexpectedToken token)
termination_by tokens.length

def passLines (builder : Builder) : List Markup.Line → Except CompileError (List Passage)
  | [] => .ok []
  | line :: rest => do
    let next ← builder.writeLine (line.opens rest) line
    let later ← next.passLines rest
    return ⟨builder.enter line, next⟩ :: later

def runLines (builder : Builder) : List Markup.Line → Except CompileError Builder
  | [] => .ok builder
  | line :: rest => do
    let next ← builder.writeLine (line.opens rest) line
    next.runLines rest

/-! ### Content -/

theorem bind_ok {builder next : Builder} {statement : Text}
    (bound : builder.bind statement = .ok next) :
    ∃ names, Script.assignedNames statement = .ok names ∧
      next = { builder with names := builder.names ++ names } := by
  unfold bind at bound
  split at bound
  next names known =>
    cases bound
    exact ⟨names, known, rfl⟩
  next => cases bound
  next => cases bound

theorem add_statement {builder next : Builder} {code : Text}
    (added : builder.add (.statement code) = .ok next) :
    ∃ names, Script.assignedNames code = .ok names ∧
      next = { builder with
        body := .control code :: builder.body
        names := builder.names ++ names } := by
  obtain ⟨bound, known, added⟩ := Outcome.bind_eq_ok.mp added
  obtain ⟨names, assigned, rfl⟩ := bind_ok known
  cases added
  exact ⟨names, assigned, rfl⟩

theorem add_block {builder next : Builder} {header : Text}
    (added : builder.add (.block header) = .ok next) :
    ∃ names, Script.assignedNames header = .ok names ∧
      next = { builder with
        body := []
        names := builder.names ++ names
        pending := .block builder.depth header builder.body :: builder.pending } := by
  obtain ⟨bound, known, added⟩ := Outcome.bind_eq_ok.mp added
  obtain ⟨names, assigned, rfl⟩ := bind_ok known
  cases added
  exact ⟨names, assigned, rfl⟩

/-! ### One line -/

theorem content_tokens (builder : Builder) (matter : Matter) {rest : List Token}
    (ends : LineEnds rest) :
    builder.content (matter.tokens ++ rest) =
      .ok (matter.content (builder.goesDeeper rest), rest) := by
  cases matter with
  | absent =>
    cases rest with
    | nil => rfl
    | cons token more =>
      have kind : token.kind = .whiteSpace := by simpa using leads_cons.mp ends
      simp [Matter.tokens, content, kind, Matter.content]
  | text words =>
    simp [Matter.tokens, content, words.kind_eq, Matter.content]
  | code sign expression =>
    simp only [Matter.tokens, List.cons_append, List.nil_append, content, sign.kind_eq,
      expect_mem, Outcome.ok_bind, Matter.content]
    split <;> rfl
  | silent sign statement =>
    simp only [Matter.tokens, List.cons_append, List.nil_append, content, sign.kind_eq,
      expect_mem, Outcome.ok_bind, Matter.content]
    split <;> rfl
  | comment sign note =>
    simp only [Matter.tokens, List.cons_append, List.nil_append, content, sign.kind_eq,
      expect_mem, Outcome.ok_bind, Matter.content]
    rfl

theorem endsHere_eq (builder : Builder) {rest : List Token} (ends : LineEnds rest) :
    builder.endsHere rest = !builder.goesDeeper rest := by
  cases rest with
  | nil => rfl
  | cons token more =>
    have kind : token.kind = .whiteSpace := by simpa using leads_cons.mp ends
    simp only [endsHere, goesDeeper, kind, BEq.rfl, Bool.true_and]
    by_cases deeper : builder.depth < token.content.length <;> simp [deeper] <;> omega

theorem endsHere_matter (builder : Builder) {matter : Matter} (present : matter.tokens ≠ [])
    (rest : List Token) : builder.endsHere (matter.tokens ++ rest) = false := by
  have leads := matter.leads_tokens
  cases tokens : matter.tokens with
  | nil => exact absurd tokens present
  | cons token more =>
    rw [tokens, leads_cons] at leads
    have kind : token.kind ≠ .whiteSpace := by
      intro same
      rw [same] at leads
      exact absurd leads (by decide)
    simp [endsHere, kind]

/-- Whether a line can come next. Only where nothing is open can it lack an indentation. -/
def Fits (builder : Builder) (line : Markup.Line) : Prop :=
  line.indent.isSome = true ∨ builder.pending = [] ∧ line.form.tokens ≠ []

theorem depth_enter {builder : Builder} {line : Markup.Line} (fits : builder.Fits line) :
    (builder.enter line).depth = line.depth := by
  rcases fits with indented | ⟨flush, _⟩
  · obtain ⟨token, same⟩ := Option.isSome_iff_exists.mp indented
    simp [enter, Markup.Line.depth, same, push, depth, Pending.depth]
  · cases same : line.indent with
    | none => simp [enter, Markup.Line.depth, same, depth, flush]
    | some token => simp [enter, Markup.Line.depth, same, push, depth, Pending.depth]

/-- The kinds that a tag or a content begins with. -/
def entryKinds : List TokenKind :=
  [TokenKind.elementIdentifier] ++ [TokenKind.elementIdIdentifier] ++ [TokenKind.elementClassIdentifier] ++ tagValueKinds ++
    matterKinds

theorem leads_entry (head : Option Head) (matter : Matter) :
    Leads entryKinds (Form.entry head matter).tokens := by
  cases head with
  | none => exact fun token first => List.mem_append_right _ (matter.leads_tokens token first)
  | some head =>
    have same : (Form.entry (some head) matter).tokens = head.tokens ++ matter.tokens := by
      simp [Form.tokens]
    rw [same]
    exact leads_append (leads_append (leads_append (leads_append
      (leads_signed head.element) (leads_signed head.id)) (leads_signed head.classes))
      (leads_attributes head.attributes)) matter.leads_tokens

theorem form_not_indented (form : Form) : ∀ token ∈ form.tokens.head?, token.kind ≠ .whiteSpace := by
  cases form with
  | docType sign type => exact (leads_cons.mpr sign.property).other (by decide)
  | entry head matter => exact (leads_entry head matter).other (by decide)

theorem indented_line {builder : Builder} {line : Markup.Line} (fits : builder.Fits line)
    (rest : List Token) :
    builder.indented (line.tokens ++ rest) = (builder.enter line, line.form.tokens ++ rest) := by
  cases same : line.indent with
  | some token =>
    simp [indented, Markup.Line.tokens, same, take?, token.kind_eq, enter]
  | none =>
    have spoken : line.form.tokens ≠ [] := by
      rcases fits with indented | ⟨_, spoken⟩
      · simp [same] at indented
      · exact spoken
    have other := form_not_indented line.form
    cases tokens : line.form.tokens with
    | nil => exact absurd tokens spoken
    | cons token more =>
      have kind : token.kind ≠ .whiteSpace := other token (by simp [tokens])
      simp [indented, Markup.Line.tokens, same, tokens, take?, kind, enter]

theorem step_line {builder : Builder} {line : Markup.Line} {head : Option Head} {matter : Matter}
    (form : line.form = .entry head matter) (fits : builder.Fits line) {rest : List Token}
    (ends : LineEnds rest) :
    builder.step (line.tokens ++ rest) = (do
      let next ← builder.writeLine ((builder.enter line).goesDeeper rest) line
      return (next, rest)) := by
  rw [step, indented_line fits, writeLine, form]
  generalize builder.enter line = entered
  cases head with
  | none =>
    simp only [Form.tokens, Option.toList_none, List.flatMap_nil, List.nil_append,
      tag?_none matter ends, content_tokens entered matter ends, Outcome.ok_bind]
    rfl
  | some head =>
    simp only [Form.tokens, Option.toList_some, List.flatMap_cons, List.flatMap_nil,
      List.append_nil, List.append_assoc, tag?_head head matter ends, tagText_head,
      Outcome.ok_bind, content_tokens entered matter ends]
    by_cases bare : matter.tokens = []
    next =>
      have absent : matter = .absent := by cases matter <;> simp_all [Matter.tokens]
      subst absent
      simp only [Matter.tokens, List.nil_append, endsHere_eq entered ends, write, Matter.content]
      cases entered.goesDeeper rest <;> rfl
    next =>
      rw [endsHere_matter entered bare]
      simp only [Bool.false_eq_true, if_false, write, addTagged, endsHere_eq entered ends]
      cases matter with
      | absent => exact absurd rfl bare
      | _ => cases entered.goesDeeper rest <;> rfl

/-! ### All lines -/

/-- Every line but the first has an indentation of its own. -/
def Indented (lines : List Markup.Line) : Prop := ∀ line ∈ lines, line.indent.isSome = true

theorem lineEnds_of_indented {lines : List Markup.Line} (indented : Indented lines) :
    LineEnds (lines.flatMap Markup.Line.tokens) := by
  cases lines with
  | nil => exact leads_nil _
  | cons line rest =>
    obtain ⟨token, same⟩ := Option.isSome_iff_exists.mp (indented line (List.mem_cons_self ..))
    simp [Markup.Line.tokens, same, leads_cons, token.kind_eq]

theorem goesDeeper_lines {builder : Builder} {line : Markup.Line} (fits : builder.Fits line)
    {rest : List Markup.Line} (indented : Indented rest) :
    (builder.enter line).goesDeeper (rest.flatMap Markup.Line.tokens) = line.opens rest := by
  cases rest with
  | nil => rfl
  | cons next others =>
    obtain ⟨token, same⟩ := Option.isSome_iff_exists.mp (indented next (List.mem_cons_self ..))
    simp [Markup.Line.tokens, same, goesDeeper, token.kind_eq, depth_enter fits,
      Markup.Line.opens, Markup.Line.depth]

theorem fits_of_indented {line : Markup.Line} (builder : Builder)
    (indented : line.indent.isSome = true) : builder.Fits line :=
  .inl indented

theorem passages_of_step {builder : Builder} {tokens : List Token} (present : tokens ≠ []) :
    builder.passages tokens = (do
      let (next, rest) ← builder.step tokens
      if rest.length < tokens.length then do
        let later ← next.passages rest
        return ⟨(builder.indented tokens).1, next⟩ :: later
      else .error (.unexpectedToken (tokens.head present))) := by
  cases tokens with
  | nil => exact absurd rfl present
  | cons token others =>
    rw [passages]
    simp only [List.length_cons, Nat.lt_succ_iff, List.head_cons]

/-- A document type behind the first line is left where it is, and nothing can be made of it. -/
theorem passages_docType {builder : Builder} {line : Markup.Line} (indented : line.indent.isSome = true)
    {sign : TokenOf [.docTypeIdentifier]} {type : Option (TokenOf [.docType])}
    (form : line.form = .docType sign type) (rest : List Token) :
    builder.passages (line.tokens ++ rest) = .error (.unexpectedToken sign.val) := by
  have stays (builder : Builder) (more : List Token) :
      builder.indented (sign.val :: more) = (builder, sign.val :: more) := by
    simp [Builder.indented, take?, sign.kind_eq]
  have noTag (more : List Token) :
      tag? (sign.val :: more) = .ok (none, sign.val :: more) := by
    simp [tag?, signedValue, take?, sign.kind_eq, pure, Except.pure]
  have nothing (builder : Builder) (more : List Token) :
      builder.content (sign.val :: more) = .ok (.absent, sign.val :: more) := by
    simp [content, sign.kind_eq]
  have alone (builder : Builder) (more : List Token) :
      builder.step (sign.val :: more) = .ok (builder, sign.val :: more) := by
    simp [step, stays, noTag, nothing, add, pure, Except.pure]
  have first : builder.step (line.tokens ++ rest) =
      .ok (builder.enter line, line.form.tokens ++ rest) := by
    rw [step, indented_line (fits_of_indented builder indented), form]
    simp [Form.tokens, noTag, nothing, add, pure, Except.pure]
  obtain ⟨token, same⟩ := Option.isSome_iff_exists.mp indented
  have shorter : (line.form.tokens ++ rest).length < (line.tokens ++ rest).length := by
    simp [Markup.Line.tokens, same]
  rw [passages_of_step (by simp [Markup.Line.tokens, same]), first, Outcome.ok_bind]
  simp only [shorter, if_true]
  rw [form]
  simp only [Form.tokens, List.cons_append]
  rw [passages_of_step (List.cons_ne_nil _ _), alone]
  simp only [Outcome.ok_bind, Nat.lt_irrefl, if_false, Outcome.error_bind, List.head_cons]

/-- Whether a line is for the run, which a document type at the margin is not. -/
def Runs (line : Markup.Line) : Prop :=
  line.indent.isSome = true ∨ ∃ head matter, line.form = .entry head matter

def Starts (builder : Builder) (line : Markup.Line) : Prop := builder.Fits line ∧ Runs line

theorem starts_of_indented {line : Markup.Line} (builder : Builder)
    (indented : line.indent.isSome = true) : builder.Starts line :=
  ⟨.inl indented, .inl indented⟩

theorem tokens_ne_nil {builder : Builder} {line : Markup.Line} (fits : builder.Fits line) :
    line.tokens ≠ [] := by
  rcases fits with indented | ⟨_, spoken⟩
  · obtain ⟨token, same⟩ := Option.isSome_iff_exists.mp indented
    simp [Markup.Line.tokens, same]
  · simp [Markup.Line.tokens, spoken]

theorem passages_lines {builder : Builder} {lines : List Markup.Line}
    (starts : ∀ line ∈ lines.head?, builder.Starts line) (indented : Indented lines.tail) :
    builder.passages (lines.flatMap Markup.Line.tokens) = builder.passLines lines := by
  induction lines generalizing builder with
  | nil => rw [List.flatMap_nil, passages, passLines]
  | cons line rest ih =>
    obtain ⟨fits, known⟩ := starts line rfl
    have indented : Indented rest := indented
    rw [List.flatMap_cons, passLines]
    cases form : line.form with
    | docType sign type =>
      have margin : line.indent.isSome = true := by
        rcases known with margin | ⟨_, _, other⟩
        · exact margin
        · rw [form] at other
          cases other
      rw [passages_docType margin form, writeLine, form]
      rfl
    | entry head matter =>
      have present := tokens_ne_nil fits
      have shorter : (rest.flatMap Markup.Line.tokens).length <
          (line.tokens ++ rest.flatMap Markup.Line.tokens).length := by
        rw [List.length_append]
        exact Nat.lt_add_of_pos_left (List.length_pos_iff.mpr present)
      rw [passages_of_step (by simp [present]), step_line form fits (lineEnds_of_indented indented),
        goesDeeper_lines fits indented, indented_line fits]
      cases written : builder.writeLine (line.opens rest) line with
      | error fault => rfl
      | ok next =>
        have later : next.passages (rest.flatMap Markup.Line.tokens) = next.passLines rest := by
          refine ih (fun first same => starts_of_indented next ?_) fun other member => ?_
          · exact indented first (List.mem_of_mem_head? same)
          · exact indented other (List.mem_of_mem_tail member)
        simp only [Outcome.ok_bind, pure, Except.pure, shorter, if_true, later]

/-- The builder behind the last of some lines. -/
def Passage.last (builder : Builder) (found : List Passage) : Builder :=
  (found.getLast?.map Passage.left).getD builder

theorem Passage.last_cons (builder : Builder) (passage : Passage) (later : List Passage) :
    last builder (passage :: later) = last passage.left later := by
  simp only [last, List.getLast?_cons]
  cases later.getLast? <;> rfl

theorem run_eq_passages (builder : Builder) (tokens : List Token) :
    builder.run tokens = (builder.passages tokens).map (Passage.last builder) := by
  induction size : tokens.length using Nat.strongRecOn generalizing builder tokens with
  | ind size ih =>
    cases tokens with
    | nil => simp [run, passages, Except.map, Passage.last]
    | cons token others =>
      rw [run, passages]
      cases stepped : builder.step (token :: others) with
      | error fault => rfl
      | ok found =>
        obtain ⟨next, rest⟩ := found
        simp only [Outcome.ok_bind]
        split
        next shorter =>
          rw [ih _ (by simp only [← size, List.length_cons]; omega) next rest rfl]
          cases passed : next.passages rest with
          | error fault => rfl
          | ok later =>
            simp only [Except.map, Outcome.ok_bind, pure, Except.pure, Passage.last_cons]
        next => rfl

theorem runLines_eq_passLines (builder : Builder) (lines : List Markup.Line) :
    builder.runLines lines = (builder.passLines lines).map (Passage.last builder) := by
  induction lines generalizing builder with
  | nil => rfl
  | cons line rest ih =>
    rw [runLines, passLines]
    cases written : builder.writeLine (line.opens rest) line with
    | error fault => rfl
    | ok next =>
      simp only [Outcome.ok_bind, ih]
      cases passed : next.passLines rest with
      | error fault => rfl
      | ok later =>
        simp only [Except.map, Outcome.ok_bind, pure, Except.pure, Passage.last_cons]

theorem run_lines {builder : Builder} {lines : List Markup.Line}
    (starts : ∀ line ∈ lines.head?, builder.Starts line) (indented : Indented lines.tail) :
    builder.run (lines.flatMap Markup.Line.tokens) = builder.runLines lines := by
  rw [run_eq_passages, passages_lines starts indented, runLines_eq_passLines]

end Builder

end Stencil
