import Mathlib.Order.Monotone.Basic
import Stencil.Proofs.Turn.Reading

/-!
Tokens that are changed where the builder does not look. It sees no place of a token, and of an
indentation only whether it is wider than another. The turns read from changed tokens are the same
turns, at the new depths.
-/

set_option autoImplicit false

namespace Stencil

/-- The same error, said of a changed token. -/
def CompileError.recast (change : Token → Token) : CompileError → CompileError
  | unexpectedDocType token => unexpectedDocType (change token)
  | unexpectedToken token => unexpectedToken (change token)
  | expectedOther token expected => expectedOther (change token) expected
  | other => other

namespace Builder

/-- Changes that leave kinds and contents as they are, but for the widths of indentations. -/
structure Recasts (widen : Nat → Nat) (change : Token → Token) : Prop where
  grows : StrictMono widen
  flush : widen 0 = 0
  kind : ∀ token, (change token).kind = token.kind
  content : ∀ token, token.kind ≠ .whiteSpace → (change token).content = token.content
  width : ∀ token, token.kind = .whiteSpace →
    (change token).content.length = widen token.content.length

section Outcomes

variable {α β γ δ : Type} {change : Token → Token}

/-- An outcome whose value is changed, and whose error is said of changed tokens. -/
def recast (change : Token → Token) (carry : α → β) (outcome : Except CompileError α) :
    Except CompileError β :=
  (outcome.map carry).mapError (CompileError.recast change)

@[simp] theorem recast_ok (carry : α → β) (value : α) :
    recast change carry (.ok value) = .ok (carry value) := rfl

@[simp] theorem recast_error (carry : α → β) (error : CompileError) :
    recast change carry (.error error) = .error (error.recast change) := rfl

/-- A change goes through steps in a row. -/
theorem recast_bind {first : Except CompileError α} {next : α → Except CompileError β}
    {after : γ → Except CompileError δ} {carry : α → γ} {last : β → δ}
    (each : ∀ value, first = .ok value → after (carry value) = recast change last (next value)) :
    recast change carry first >>= after = recast change last (first >>= next) := by
  cases first with
  | error error => rfl
  | ok value => exact each value rfl

theorem recast_map {outcome : Except CompileError α} (next : α → β) :
    (recast change id outcome).map next = recast change id (outcome.map next) := by
  cases outcome <;> rfl

/-- A value that was read, and the tokens behind it. -/
def behind (change : Token → Token) (carry : α → β) (found : α × List Token) : β × List Token :=
  (carry found.1, found.2.map change)

end Outcomes

section Tags

variable {widen : Nat → Nat} {change : Token → Token}

theorem take?_recast (recasts : Recasts widen change) (kinds : List TokenKind) (tokens : List Token) :
    take? kinds (tokens.map change) = (take? kinds tokens).map (behind change change) := by
  cases tokens with
  | nil => rfl
  | cons token rest =>
    rw [List.map_cons, take?, take?, recasts.kind]
    split <;> rfl

theorem expect_recast (recasts : Recasts widen change) (kinds : List TokenKind)
    (tokens : List Token) :
    expect kinds (tokens.map change) = recast change (behind change change) (expect kinds tokens) := by
  cases tokens with
  | nil => rfl
  | cons token rest =>
    rw [List.map_cons, expect, expect, recasts.kind]
    split <;> rfl

theorem kind_of_take? {kinds : List TokenKind} {tokens rest : List Token} {token : Token}
    (taken : take? kinds tokens = some (token, rest)) : token.kind ∈ kinds := by
  cases tokens with
  | nil => cases taken
  | cons first others =>
    rw [take?] at taken
    split at taken
    next inside =>
      cases taken
      exact List.contains_iff_mem.mp inside
    next => cases taken

theorem kind_of_expect {kinds : List TokenKind} {tokens rest : List Token} {token : Token}
    (met : expect kinds tokens = .ok (token, rest)) : token.kind ∈ kinds := by
  cases tokens with
  | nil => cases met
  | cons first others =>
    rw [expect] at met
    split at met
    next inside =>
      cases met
      exact List.contains_iff_mem.mp inside
    next => cases met

/-- A token that had to come, and is no indentation, says what it said. -/
theorem content_of_expect (recasts : Recasts widen change) {kind : TokenKind}
    (other : kind ≠ .whiteSpace) {tokens rest : List Token} {token : Token}
    (met : expect [kind] tokens = .ok (token, rest)) : (change token).content = token.content := by
  apply recasts.content
  rw [List.mem_singleton.mp (kind_of_expect met)]
  exact other

def Tag.recast (change : Token → Token) (tag : Tag) : Tag :=
  ⟨tag.element.map change, tag.id.map change, tag.classes.map change,
    tag.attributes.map fun pair => (change pair.1, change pair.2)⟩

theorem signedValue_recast (recasts : Recasts widen change) (sign : TokenKind)
    (tokens : List Token) :
    signedValue sign (tokens.map change) =
      recast change (behind change (Option.map change)) (signedValue sign tokens) := by
  rw [signedValue, signedValue, take?_recast recasts]
  cases take? [sign] tokens with
  | none => rfl
  | some found =>
    simp only [Option.map_some, behind, expect_recast recasts]
    exact recast_bind fun _ _ => rfl

theorem attributes_recast (recasts : Recasts widen change) (tokens : List Token) :
    attributes (tokens.map change) =
      recast change (behind change (List.map fun pair => (change pair.1, change pair.2)))
        (attributes tokens) := by
  fun_induction attributes tokens with
  | case1 => rfl
  | case4 name named connector connects value rest valued ih =>
    simp only [List.map_cons]
    conv => lhs; unfold attributes
    simp only [recasts.kind, named, connects, valued, if_true, ih]
    exact recast_bind fun _ _ => rfl
  | _ =>
    simp only [List.map_cons, List.map_nil]
    unfold attributes
    simp only [recasts.kind, *, if_true, if_false, Bool.false_eq_true]
    rfl

theorem tag?_recast (recasts : Recasts widen change) (tokens : List Token) :
    tag? (tokens.map change) =
      recast change (behind change (Option.map (Tag.recast change))) (tag? tokens) := by
  rw [tag?, tag?, signedValue_recast recasts]
  apply recast_bind
  intro ⟨element, rest⟩ _
  simp only [behind, signedValue_recast recasts]
  apply recast_bind
  intro ⟨id, rest⟩ _
  simp only [behind, signedValue_recast recasts]
  apply recast_bind
  intro ⟨classes, rest⟩ _
  simp only [behind, Option.isNone_map]
  by_cases bare : (element.isNone && id.isNone && classes.isNone) = true
  next => simp [bare, pure, Except.pure, behind]
  next =>
    simp only [bare, Bool.false_eq_true, if_false, attributes_recast recasts]
    exact recast_bind fun _ _ => rfl

theorem ofToken_recast (recasts : Recasts widen change) (token : Token) (inString : Bool) :
    Fragment.ofToken (change token) inString =
      recast change id (Fragment.ofToken token inString) := by
  by_cases margin : token.kind = .whiteSpace
  next =>
    -- an indentation has no code, whatever it says
    have same := recasts.kind token
    simp only [Fragment.ofToken, same, margin]
    rfl
  next =>
    unfold Fragment.ofToken
    simp only [recasts.kind, recasts.content token margin]
    split
    case h_3 =>
      split
      next =>
        unfold Fragment.quotedValue
        split <;> rfl
      next => rfl
    all_goals rfl

theorem fixedAttribute_recast (recasts : Recasts widen change) (name : Text)
    (value : Option Token) :
    fixedAttribute name (value.map change) = recast change id (fixedAttribute name value) := by
  cases value with
  | none => rfl
  | some value =>
    simp only [Option.map_some, fixedAttribute, ofToken_recast recasts]
    exact recast_map _

theorem freeAttribute_recast (recasts : Recasts widen change) (pair : Token × Token) :
    freeAttribute (change pair.1, change pair.2) = recast change id (freeAttribute pair) := by
  simp only [freeAttribute, ofToken_recast recasts]
  apply recast_bind
  intro name _
  exact recast_bind fun _ _ => rfl

theorem freeAttributes_recast (recasts : Recasts widen change) (pairs : List (Token × Token)) :
    (pairs.map fun pair => (change pair.1, change pair.2)).mapM freeAttribute =
      recast change id (pairs.mapM freeAttribute) := by
  induction pairs with
  | nil => rfl
  | cons pair rest ih =>
    rw [List.map_cons, List.mapM_cons, List.mapM_cons, freeAttribute_recast recasts, ih]
    apply recast_bind
    intro first _
    exact recast_bind fun _ _ => rfl

theorem tagText_recast (recasts : Recasts widen change) (tag : Tag) :
    tagText (tag.recast change) = recast change id (tagText tag) := by
  have rest (name : Text) :
      (do
        let id ← fixedAttribute "id".toList (tag.recast change).id
        let classes ← fixedAttribute "class".toList (tag.recast change).classes
        let others ← (tag.recast change).attributes.mapM freeAttribute
        return (⟨name, id ++ classes ++ others.flatten⟩ : TagText)) =
      recast change id (do
        let id ← fixedAttribute "id".toList tag.id
        let classes ← fixedAttribute "class".toList tag.classes
        let others ← tag.attributes.mapM freeAttribute
        return (⟨name, id ++ classes ++ others.flatten⟩ : TagText)) := by
    simp only [Tag.recast, fixedAttribute_recast recasts, freeAttributes_recast recasts]
    apply recast_bind
    intro id _
    apply recast_bind
    intro classes _
    exact recast_bind fun _ _ => rfl
  unfold tagText
  cases named : tag.element with
  | none =>
    simp only [Tag.recast, named, Option.map_none]
    exact rest _
  | some value =>
    have there : (tag.recast change).element = some (change value) := by simp [Tag.recast, named]
    simp only [there, ofToken_recast recasts]
    exact recast_bind fun name _ => rest name

end Tags

/-! ### Depths -/

/-- The depths on the stack, from the top on. -/
def depths (builder : Builder) : List Nat := builder.pending.map Pending.depth

theorem depth_eq (builder : Builder) : builder.depth = builder.depths.head?.getD 0 := by
  rw [depth, depths]
  cases builder.pending <;> rfl

/-- A builder at the new depths. It may stand on indentations at the margin. -/
def Deepens (widen : Nat → Nat) (builder other : Builder) : Prop :=
  ∃ roots : List Nat, (∀ root ∈ roots, root = 0) ∧
    other.depths = builder.depths.map widen ++ roots

section Turns

variable {widen : Nat → Nat} {change : Token → Token} {builder other : Builder}

theorem Deepens.depth_eq (deepens : Deepens widen builder other) (flush : widen 0 = 0) :
    other.depth = widen builder.depth := by
  obtain ⟨roots, margin, same⟩ := deepens
  rw [Builder.depth_eq, Builder.depth_eq, same]
  cases builder.depths with
  | cons top rest => rfl
  | nil =>
    cases roots with
    | nil => exact flush.symm
    | cons root more => simp [margin root, flush]

theorem goesDeeper_recast (recasts : Recasts widen change) (deepens : Deepens widen builder other)
    (tokens : List Token) :
    other.goesDeeper (tokens.map change) = builder.goesDeeper tokens := by
  cases tokens with
  | nil => rfl
  | cons token rest =>
    rw [List.map_cons, goesDeeper, goesDeeper, recasts.kind]
    by_cases margin : token.kind = .whiteSpace
    next =>
      simp only [deepens.depth_eq recasts.flush, recasts.width token margin,
        recasts.grows.lt_iff_lt]
    next => simp only [beq_false_of_ne margin, Bool.false_and]

theorem endsHere_recast (recasts : Recasts widen change) (deepens : Deepens widen builder other)
    (tokens : List Token) : other.endsHere (tokens.map change) = builder.endsHere tokens := by
  cases tokens with
  | nil => rfl
  | cons token rest =>
    rw [List.map_cons, endsHere, endsHere, recasts.kind]
    by_cases margin : token.kind = .whiteSpace
    next =>
      simp only [deepens.depth_eq recasts.flush, recasts.width token margin,
        recasts.grows.le_iff_le]
    next => simp only [beq_false_of_ne margin, Bool.false_and]

/-- What a line of code holds: what `deep` makes of the code where the next line lies deeper, and
what `flat` makes of it elsewhere. -/
def codeContent (builder : Builder) (deep flat : Text → Content) (tokens : List Token) :
    Except CompileError (Content × List Token) := do
  let (code, rest) ← expect [.expression] tokens
  if builder.goesDeeper rest then return (deep code.content, rest)
  else return (flat code.content, rest)

theorem codeContent_recast (recasts : Recasts widen change) (deepens : Deepens widen builder other)
    (deep flat : Text → Content) (tokens : List Token) :
    other.codeContent deep flat (tokens.map change) =
      recast change (behind change id) (builder.codeContent deep flat tokens) := by
  rw [codeContent, codeContent, expect_recast recasts]
  apply recast_bind
  rintro ⟨code, rest⟩ met
  have said := content_of_expect recasts (by decide) met
  simp only [behind, goesDeeper_recast recasts deepens, said]
  split <;> rfl

theorem content_recast (recasts : Recasts widen change) (deepens : Deepens widen builder other)
    (tokens : List Token) :
    other.content (tokens.map change) = recast change (behind change id) (builder.content tokens) := by
  cases tokens with
  | nil => rfl
  | cons token rest =>
    rw [List.map_cons, content, content, recasts.kind]
    have code := fun deep flat => codeContent_recast recasts deepens deep flat rest
    split
    case h_1 => exact code .call fun code => .output .expression (Fragment.ofExpression code false)
    case h_2 => exact code (fun code => .block (headerOf code)) .statement
    case h_3 =>
      rw [expect_recast recasts]
      apply recast_bind
      rintro ⟨note, rest⟩ met
      have said := content_of_expect recasts (by decide) met
      simp only [behind, comment, said]
      rfl
    case h_4 kind => simp [comment, recasts.content token (by simp [kind]), behind]
    case h_5 kind => simp [recasts.content token (by simp [kind]), behind]
    case h_6 => rfl

def Turn.deepened (widen : Nat → Nat) (turn : Turn) : Turn :=
  { turn with indent := turn.indent.map widen }

theorem map_deepened_id : List.map (Turn.deepened id) = id := by
  have each : Turn.deepened id = id := by
    funext turn
    simp [Turn.deepened]
  rw [each, List.map_id_fun]

theorem indentation?_recast (recasts : Recasts widen change) (tokens : List Token) :
    indentation? (tokens.map change) = behind change (Option.map widen) (indentation? tokens) := by
  rw [indentation?, indentation?, take?_recast recasts]
  cases taken : take? [.whiteSpace] tokens with
  | none => rfl
  | some found =>
    have margin := List.mem_singleton.mp (kind_of_take? taken)
    simp [behind, recasts.width found.1 margin]

/-! ### Taking turns -/

theorem depths_closeTo (builder : Builder) (downTo : Nat) :
    (builder.closeTo downTo).depths = builder.depths.dropWhile fun depth => downTo ≤ depth := by
  suffices every : ∀ (pending : List Pending) (builder : Builder),
      (closeStack downTo pending builder).depths =
        (pending.map Pending.depth).dropWhile fun depth => downTo ≤ depth from every _ _
  intro pending
  induction pending with
  | nil => exact fun builder => rfl
  | cons top rest ih =>
    intro builder
    rw [closeStack, List.map_cons, List.dropWhile_cons]
    by_cases closes : downTo ≤ top.depth
    next => simp only [closes, if_true, decide_true, ih]
    next => simp [closes, depths]

theorem depths_push (builder : Builder) (one : Pending) :
    (builder.push one).depths = one.depth :: builder.depths := rfl

theorem Deepens.push (deepens : Deepens widen builder other) (one next : Pending)
    (deeper : next.depth = widen one.depth) : Deepens widen (builder.push one) (other.push next) := by
  obtain ⟨roots, margin, same⟩ := deepens
  refine ⟨roots, margin, ?_⟩
  rw [depths_push, depths_push, same, deeper]
  rfl

theorem Deepens.shift (deepens : Deepens widen builder other) (grows : StrictMono widen)
    (flush : widen 0 = 0) (indent : Option Nat) :
    Deepens widen (builder.shift indent) (other.shift (indent.map widen)) := by
  cases indent with
  | none => exact deepens
  | some depth =>
    refine Deepens.push ?_ (.indent depth) (.indent (widen depth)) rfl
    obtain ⟨roots, margin, same⟩ := deepens
    refine ⟨roots.dropWhile fun root => widen depth ≤ root,
      fun root member => margin root ((List.dropWhile_sublist _).mem member), ?_⟩
    rw [depths_closeTo, depths_closeTo, same]
    have order (top : Nat) : widen depth ≤ widen top ↔ depth ≤ top := grows.le_iff_le
    induction builder.depths with
    | nil => rfl
    | cons top rest ih =>
      simp only [List.map_cons, List.cons_append, List.dropWhile_cons, order]
      by_cases closes : depth ≤ top
      next => simpa [closes] using ih
      next =>
        -- what stays open keeps the margin below it, so the roots stay as well
        have deep : ¬widen depth ≤ 0 := by
          rw [← flush, order]
          omega
        have kept : (roots.dropWhile fun root => widen depth ≤ root) = roots := by
          cases roots with
          | nil => rfl
          | cons root more => simp [margin root, deep]
        simp [closes, kept]

/-- Two outcomes with like values, or with the same error. -/
inductive Alongside {α β : Type} (like : α → β → Prop) :
    Except CompileError α → Except CompileError β → Prop where
  | ok {value : α} {result : β} (same : like value result) : Alongside like (.ok value) (.ok result)
  | error {error : CompileError} (untold : error.token? = none) :
      Alongside like (.error error) (.error error)

theorem bind_alongside (deepens : Deepens widen builder other) (code : Text) :
    Alongside (Deepens widen) (builder.bind code) (other.bind code) := by
  unfold bind
  cases Script.assignedNames code with
  | ok names => exact .ok deepens
  | error fault => cases fault <;> exact .error rfl

theorem add_alongside (deepens : Deepens widen builder other) (flush : widen 0 = 0)
    (content : Content) : Alongside (Deepens widen) (builder.add content) (other.add content) := by
  have deeper := deepens.depth_eq flush
  cases content with
  | absent => exact .ok deepens
  | output kind body => exact .ok deepens
  | statement code =>
    have bound := bind_alongside deepens code
    rw [add, add]
    generalize builder.bind code = first at bound ⊢
    generalize other.bind code = second at bound ⊢
    cases bound with
    | ok same => exact .ok same
    | error untold => exact .error untold
  | block header =>
    have bound := bind_alongside deepens header
    rw [add, add]
    generalize builder.bind header = first at bound ⊢
    generalize other.bind header = second at bound ⊢
    cases bound with
    | ok same =>
      apply Alongside.ok
      exact same.push (.block _ header _) (.block _ header _) (same.depth_eq flush)
    | error untold => exact .error untold
  | call code =>
    apply Alongside.ok
    exact deepens.push (.call _ code _ _ _) (.call _ code _ _ _) deeper

theorem openTag_deepens (deepens : Deepens widen builder other) (flush : widen 0 = 0)
    (text : TagText) : Deepens widen (builder.openTag text) (other.openTag text) :=
  deepens.push (.endTag _ text.stop) (.endTag _ text.stop) (deepens.depth_eq flush)

theorem takeTurn_alongside (deepens : Deepens widen builder other) (grows : StrictMono widen)
    (flush : widen 0 = 0) (turn : Turn) :
    Alongside (Deepens widen) (builder.takeTurn turn) (other.takeTurn (turn.deepened widen)) := by
  obtain ⟨indent, tag, content, ends⟩ := turn
  have shifted := deepens.shift grows flush indent
  cases tag with
  | none => exact add_alongside shifted flush content
  | some text =>
    have opened := add_alongside (openTag_deepens shifted flush text) flush content
    cases content with
    | absent =>
      cases ends with
      | true => exact .ok shifted
      | false => exact opened
    | output kind body =>
      cases ends with
      | true => exact .ok shifted
      | false => exact opened
    | _ => cases ends <;> exact opened

theorem recast_of_untold {error : CompileError} (untold : error.token? = none) :
    error.recast change = error := by
  cases error with
  | unexpectedDocType => cases untold
  | unexpectedToken => cases untold
  | expectedOther => cases untold
  | _ => rfl

theorem readTurn_recast (recasts : Recasts widen change) (deepens : Deepens widen builder other)
    (tokens : List Token) :
    other.readTurn (tokens.map change) =
      recast change (behind change (Turn.deepened widen)) (builder.readTurn tokens) := by
  rw [readTurn, readTurn, indentation?_recast recasts]
  generalize indentation? tokens = found
  obtain ⟨indent, rest⟩ := found
  have shifted := deepens.shift recasts.grows recasts.flush indent
  simp only [behind, tag?_recast recasts]
  apply recast_bind
  rintro ⟨tag, rest⟩ _
  have text : (tag.map (Tag.recast change)).mapM tagText = recast change id (tag.mapM tagText) := by
    cases tag with
    | none => rfl
    | some tag =>
      simp only [Option.map_some, Option.mapM_some, tagText_recast recasts]
      cases tagText tag <;> rfl
  simp only [behind, text, content_recast recasts shifted]
  apply recast_bind
  intro text _
  apply recast_bind
  rintro ⟨content, rest⟩ _
  simp only [behind, endsHere_recast recasts shifted]
  rfl

theorem turns_recast (recasts : Recasts widen change) {builder other : Builder}
    (deepens : Deepens widen builder other) (tokens : List Token) :
    other.turns (tokens.map change) =
      recast change (List.map (Turn.deepened widen)) (builder.turns tokens) := by
  induction size : tokens.length using Nat.strongRecOn generalizing builder other tokens with
  | ind size ih =>
    cases tokens with
    | nil =>
      rw [List.map_nil, turns, turns]
      rfl
    | cons token others =>
      rw [List.map_cons, turns, turns, ← List.map_cons, readTurn_recast recasts deepens]
      apply recast_bind
      rintro ⟨turn, rest⟩ _
      simp only [behind, List.length_map]
      have taken := takeTurn_alongside deepens recasts.grows recasts.flush turn
      generalize builder.takeTurn turn = first at taken ⊢
      generalize other.takeTurn (turn.deepened widen) = second at taken ⊢
      cases taken with
      | error untold =>
        simp only [Outcome.error_bind, recast_error, recast_of_untold untold]
      | ok same =>
        simp only [Outcome.ok_bind]
        by_cases shorter : rest.length ≤ others.length
        next =>
          have less : rest.length < (token :: others).length := Nat.lt_succ_of_le shorter
          rw [if_pos shorter, if_pos shorter, ih _ (size ▸ less) same rest rfl]
          exact recast_bind fun _ _ => rfl
        next =>
          rw [if_neg shorter, if_neg shorter]
          rfl

theorem docTurns_recast (recasts : Recasts widen change) (tokens : List Token) :
    docTurns (tokens.map change) =
      recast change (behind change (List.map (Turn.deepened widen))) (docTurns tokens) := by
  unfold docTurns
  rw [take?_recast recasts]
  cases take? [.docTypeIdentifier] tokens with
  | none => rfl
  | some found =>
    obtain ⟨identifier, rest⟩ := found
    simp only [Option.map_some, behind, take?_recast recasts]
    cases taken : take? [.docType] rest with
    | none =>
      simp only [Option.map_none]
      split <;> rfl
    | some found =>
      obtain ⟨type, rest⟩ := found
      have named := List.mem_singleton.mp (kind_of_take? taken)
      have said := recasts.content type (by simp [named])
      simp only [Option.map_some, behind, said]
      split <;> rfl

theorem takeTurns_alongside (deepens : Deepens widen builder other) (grows : StrictMono widen)
    (flush : widen 0 = 0) (turns : List Turn) :
    Alongside (Deepens widen) (builder.takeTurns turns)
      (other.takeTurns (turns.map (Turn.deepened widen))) := by
  induction turns generalizing builder other with
  | nil => exact .ok deepens
  | cons turn rest ih =>
    have taken := takeTurn_alongside deepens grows flush turn
    rw [List.map_cons, takeTurns, takeTurns]
    generalize builder.takeTurn turn = first at taken ⊢
    generalize other.takeTurn (turn.deepened widen) = second at taken ⊢
    cases taken with
    | error untold => exact .error untold
    | ok same => exact ih same

theorem deepens_refl (builder : Builder) : Deepens id builder builder :=
  ⟨[], by simp, by simp⟩

theorem deepens_initial (widen : Nat → Nat) : Deepens widen initial initial :=
  ⟨[], by simp, rfl⟩

end Turns

end Builder

namespace Program

open Builder

variable {widen : Nat → Nat} {change : Token → Token}

theorem turns_recast (recasts : Recasts widen change) (tokens : List Token) :
    turns (tokens.map change) = recast change (List.map (Turn.deepened widen)) (turns tokens) := by
  rw [turns, turns, docTurns_recast recasts]
  apply recast_bind
  rintro ⟨first, rest⟩ _
  simp only [behind]
  have begun := takeTurns_alongside (deepens_initial widen) recasts.grows recasts.flush first
  generalize initial.takeTurns first = one at begun ⊢
  generalize initial.takeTurns (first.map (Turn.deepened widen)) = other at begun ⊢
  cases begun with
  | error untold => simp only [Outcome.error_bind, recast_error, recast_of_untold untold]
  | ok same =>
    simp only [Outcome.ok_bind, Builder.turns_recast recasts same]
    exact recast_bind fun _ _ => by simp [pure, Except.pure]

/-- Whether there is a program does not depend on the widths, nor does the error where there is none. -/
theorem verdict_recast (recasts : Recasts widen change) (tokens : List Token) (contextType : Text) :
    (ofTokens (tokens.map change) contextType).map (fun _ => ()) =
      recast change (fun _ => ()) (ofTokens tokens contextType) := by
  rw [ofTokens_eq, ofTokens_eq, turns_recast recasts]
  cases turns tokens with
  | error error => rfl
  | ok all =>
    have taken := takeTurns_alongside (deepens_initial widen) recasts.grows recasts.flush all
    simp only [recast_ok, Outcome.ok_bind]
    generalize initial.takeTurns all = one at taken ⊢
    generalize initial.takeTurns (all.map (Turn.deepened widen)) = other at taken ⊢
    cases taken with
    | ok _ => rfl
    | error untold =>
      simp only [Outcome.error_bind, recast_error, recast_of_untold untold]
      rfl

/-- Where no width changes the program is the same as well. -/
theorem ofTokens_recast (recasts : Recasts id change) (tokens : List Token) (contextType : Text) :
    ofTokens (tokens.map change) contextType = recast change id (ofTokens tokens contextType) := by
  rw [ofTokens_eq, ofTokens_eq, turns_recast recasts, map_deepened_id]
  apply recast_bind
  intro all _
  have taken := takeTurns_alongside (deepens_refl initial) strictMono_id rfl all
  rw [map_deepened_id, id] at taken
  simp only [id]
  generalize initial.takeTurns all = done at taken ⊢
  cases taken with
  | ok _ => rfl
  | error untold => simp only [Outcome.error_bind, recast_error, recast_of_untold untold]

/-- What is told of tokens that a change leaves as they are, it leaves as it is. -/
theorem recast_eq_of_fixed (recasts : Recasts id change) {tokens : List Token} {contextType : Text}
    {error : CompileError} (failed : ofTokens tokens contextType = .error error)
    (fixed : ∀ token ∈ tokens, change token = token) : error.recast change = error := by
  have same : tokens.map change = tokens := by
    calc tokens.map change
      _ = tokens.map id := List.map_congr_left fixed
      _ = tokens := List.map_id tokens
  have told := ofTokens_recast recasts tokens contextType
  rw [same, failed] at told
  exact (Except.error.inj told).symm

/-- The token at fault is one of the tokens. -/
theorem mem_of_fault {tokens : List Token} {contextType : Text} {error : CompileError} {token : Token}
    (failed : ofTokens tokens contextType = .error error) (told : error.token? = some token) :
    token ∈ tokens := by
  -- any other token would be moved by a change that moves nothing but others
  let change : Token → Token := fun one =>
    if one ∈ tokens then one else { one with offset := one.offset + 1 }
  have recasts : Recasts id change := by
    refine ⟨strictMono_id, rfl, fun one => ?_, fun one _ => ?_, fun one _ => ?_⟩ <;>
      by_cases inside : one ∈ tokens <;> simp [change, inside]
  have stays := recast_eq_of_fixed recasts failed fun one member => if_pos member
  have fixed : change token = token := by
    cases error with
    | unexpectedDocType | unexpectedToken | expectedOther =>
      cases told
      simpa [CompileError.recast] using stays
    | _ => cases told
  by_contra outside
  have moved := congrArg Token.offset fixed
  simp only [change, outside, if_false] at moved
  omega

end Program

end Stencil

/-!
The builder does not look at the offsets of tokens. Tokens without their offsets give the same
program or, where there is none, the same error.
-/

namespace Stencil

namespace Token

def unplaced (token : Token) : Token := { token with offset := 0 }

end Token

namespace CompileError

def unplaced : CompileError → CompileError
  | unexpectedDocType token => unexpectedDocType token.unplaced
  | unexpectedToken token => unexpectedToken token.unplaced
  | expectedOther token expected => expectedOther token.unplaced expected
  | other => other

/-- An offset is not told. -/
theorem message?_unplaced (error : CompileError) : error.unplaced.message? = error.message? := by
  cases error <;> rfl

theorem recast_unplaced (error : CompileError) : error.recast Token.unplaced = error.unplaced := by
  cases error <;> rfl

end CompileError

namespace Builder

/-- Nothing that the builder looks at changes with the places of tokens. -/
theorem recasts_places {change : Token → Token} (kind : ∀ token, (change token).kind = token.kind)
    (content : ∀ token, (change token).content = token.content) : Recasts id change where
  grows := strictMono_id
  flush := rfl
  kind := kind
  content := fun token _ => content token
  width := fun token _ => by rw [content]; rfl

end Builder

namespace Program

open Builder

/-- Tokens that a change makes the same have the same program, or the same error but for what is
changed in the token at fault. -/
theorem ofTokens_eq_of_recast {change : Token → Token} (recasts : Recasts id change)
    {first second : List Token} (contextType : Text) (same : first.map change = second.map change) :
    (ofTokens first contextType).mapError (CompileError.recast change) =
      (ofTokens second contextType).mapError (CompileError.recast change) := by
  have one := ofTokens_recast recasts first contextType
  have other := ofTokens_recast recasts second contextType
  rw [same, other] at one
  simpa [recast, Except.map_id] using one.symm

/-- Tokens that differ in their offsets only have the same program, or the same error but for the
offset of the token at fault. -/
theorem ofTokens_eq_of_unplaced {first second : List Token} (contextType : Text)
    (same : first.map Token.unplaced = second.map Token.unplaced) :
    (ofTokens first contextType).mapError CompileError.unplaced =
      (ofTokens second contextType).mapError CompileError.unplaced := by
  have offsets : CompileError.recast Token.unplaced = CompileError.unplaced :=
    funext CompileError.recast_unplaced
  have recasts : Recasts id Token.unplaced := recasts_places (fun _ => rfl) fun _ => rfl
  rw [← offsets]
  exact ofTokens_eq_of_recast recasts contextType same

end Program

end Stencil
