import Stencil.Proofs.Builder.Outcome
import Stencil.Proofs.Turn.Grammar
import Stencil.Proofs.Turn.Reading

/-!
What becomes of a sequence of tokens, told one token at a time. The builder stops at the first
token that nothing accepted can go on with, and before that at silent code that is nested too
deeply.
-/

set_option autoImplicit false

namespace Stencil

namespace Markup

open Builder (tagValueKinds attributeValueKinds)

/-- The depth of the line behind a token, given the depth before it. -/
def depthBehind (depth : Nat) (token : Token) : Nat :=
  if token.kind = .whiteSpace then token.content.length else depth

/-- The statement of silent code at a depth, a header if deeper lines follow. -/
def statementOf (depth : Nat) (code : Text) : List Token → Text
  | [] => code
  | token :: _ =>
    if token.kind = .whiteSpace ∧ depth < token.content.length then Builder.headerOf code else code

namespace Expects

/-- What is said of a token that cannot come next. -/
def refuse (token : Token) : Expects → CompileError
  | start => .unexpectedToken token
  | docType => if token.kind = .docType then .unexpectedDocType token else .unexpectedToken token
  | phrase _ => .unexpectedToken token
  | required what => .expectedOther token what.kinds

def endFault? : Expects → Option CompileError
  | required _ => some .unexpectedEnd
  | _ => none

def codeFault? (depth : Nat) (token : Token) (rest : List Token) : Expects → Option CompileError
  | required (.expression true) => depthFault? (statementOf depth token.content rest)
  | _ => none

/-- The error of the tokens, if there is one. -/
def verdict (expects : Expects) (depth : Nat) : List Token → Option CompileError
  | [] => expects.endFault?
  | token :: rest =>
    match expects.after token with
    | none => some (expects.refuse token)
    | some next =>
      (expects.codeFault? depth token rest).or (next.verdict (depthBehind depth token) rest)

theorem verdict_refused {expects : Expects} {token : Token} (stuck : expects.after token = none)
    (depth : Nat) (rest : List Token) :
    expects.verdict depth (token :: rest) = some (expects.refuse token) := by
  rw [verdict, stuck]

theorem verdict_cons {expects next : Expects} {token : Token}
    (step : expects.after token = some next) (depth : Nat) (rest : List Token) :
    expects.verdict depth (token :: rest) =
      (expects.codeFault? depth token rest).or (next.verdict (depthBehind depth token) rest) := by
  rw [verdict, step]

/-- Whether no indentation and no code is among the tokens. -/
def Quiet (tokens : List Token) : Prop :=
  ∀ token ∈ tokens, token.kind ≠ .whiteSpace ∧ token.kind ≠ .expression

theorem expect_cases (what : Required) (depth : Nat) (tokens : List Token) :
    (∃ (token : TokenOf what.kinds) (rest : List Token), tokens = token.val :: rest ∧
        Builder.expect what.kinds tokens = .ok (token.val, rest)) ∨
      ∃ fault, Builder.expect what.kinds tokens = .error fault ∧
        (required what).verdict depth tokens = some fault := by
  cases tokens with
  | nil => exact .inr ⟨_, rfl, rfl⟩
  | cons token rest =>
    by_cases kind : token.kind ∈ what.kinds
    next => exact .inl ⟨⟨token, kind⟩, rest, rfl, Builder.expect_mem ⟨token, kind⟩ rest⟩
    next =>
      have other : what.kinds.contains token.kind = false := by
        rw [← Bool.not_eq_true, List.contains_iff_mem]
        exact kind
      have stuck : (required what).after token = none := by rw [after, if_neg kind]
      refine .inr ⟨.expectedOther token what.kinds, ?_, verdict_refused stuck depth rest⟩
      simp only [Builder.expect, other, Bool.false_eq_true, if_false]

/-! ### Tags -/

/-- The signs that tags begin with. -/
def tagSigns : List TokenKind := [.elementIdentifier, .elementIdIdentifier, .elementClassIdentifier]

/-- Expressions that can be read. -/
def Legible (tokens : List Token) : Prop :=
  ∀ token ∈ tokens, token.kind = .expression → Readable token.content

/-- Behind what has been read the rest is judged as before, unless the statement is at fault. -/
structure Says (depth behind : Nat) (tokens rest : List Token) (statement : Option Text) : Prop where
  ends : rest <:+ tokens
  verdict : (phrase false).verdict depth tokens =
    (statement.bind depthFault?).or ((phrase false).verdict behind rest)
  readable : ∀ code ∈ statement, Readable code

theorem says_nothing (depth : Nat) (tokens : List Token) : Says depth depth tokens tokens none :=
  ⟨List.suffix_refl _, rfl, by simp⟩

theorem says_alone {token : Token} (step : (phrase false).after token = some (phrase false))
    (unspaced : token.kind ≠ .whiteSpace) (depth : Nat) (rest : List Token) :
    Says depth depth (token :: rest) rest none := by
  refine ⟨List.suffix_cons .., ?_, by simp⟩
  rw [verdict_cons step, depthBehind, if_neg unspaced]
  rfl

theorem expect_says {sign : Token} {what : Required}
    (step : (phrase false).after sign = some (required what)) (unspaced : sign.kind ≠ .whiteSpace)
    (kinds : TokenKind.whiteSpace ∉ what.kinds) (goes : what.next = phrase false) (depth : Nat)
    (tokens : List Token) :
    (∃ (token : TokenOf what.kinds) (rest : List Token), tokens = token.val :: rest ∧
        Builder.expect what.kinds tokens = .ok (token.val, rest) ∧
        (phrase false).verdict depth (sign :: tokens) =
          ((required what).codeFault? depth token.val rest).or
            ((phrase false).verdict depth rest)) ∨
      ∃ fault, Builder.expect what.kinds tokens = .error fault ∧
        (phrase false).verdict depth (sign :: tokens) = some fault := by
  have level : depthBehind depth sign = depth := if_neg unspaced
  rcases expect_cases what depth tokens with ⟨token, rest, rfl, found⟩ | ⟨fault, failed, told⟩
  · refine .inl ⟨token, rest, rfl, found, ?_⟩
    have still : depthBehind depth token.val = depth :=
      if_neg fun space : token.val.kind = .whiteSpace => kinds (space ▸ token.property)
    rw [verdict_cons step, verdict_cons (after_required token), level, still, goes]
    rfl
  · refine .inr ⟨fault, failed, ?_⟩
    rw [verdict_cons step, level, told]
    rfl

theorem statementOf_eq (builder : Builder) (code : Text) (rest : List Token) :
    statementOf builder.depth code rest =
      if builder.goesDeeper rest then Builder.headerOf code else code := by
  cases rest with
  | nil => rfl
  | cons token others => simp [statementOf, Builder.goesDeeper]

end Expects

end Markup

namespace Builder

open Markup Expects

/-- The statement whose names are bound. -/
def Content.statement? : Content → Option Text
  | statement code => some code
  | block header => some header
  | _ => none

theorem content_code (builder : Builder) {sign : Token} (kind : sign.kind = .codeIdentifier)
    (rest : List Token) :
    builder.content (sign :: rest) = expect (Required.expression false).kinds rest >>= fun found =>
      .ok (if builder.goesDeeper found.2 then .call found.1.content
        else .output .expression (Fragment.ofExpression found.1.content false), found.2) := by
  simp only [content, kind, Required.kinds]
  congr 1
  funext found
  by_cases deeper : builder.goesDeeper found.2 = true <;> simp [deeper, pure, Except.pure]

theorem content_silent (builder : Builder) {sign : Token}
    (kind : sign.kind = .silentCodeIdentifier) (rest : List Token) :
    builder.content (sign :: rest) = expect (Required.expression true).kinds rest >>= fun found =>
      .ok (if builder.goesDeeper found.2 then .block (headerOf found.1.content)
        else .statement found.1.content, found.2) := by
  simp only [content, kind, Required.kinds]
  congr 1
  funext found
  by_cases deeper : builder.goesDeeper found.2 = true <;> simp [deeper, pure, Except.pure]

theorem content_comment (builder : Builder) {sign : Token} (kind : sign.kind = .commentIdentifier)
    (rest : List Token) :
    builder.content (sign :: rest) = expect Required.note.kinds rest >>= fun found =>
      .ok (comment found.1, found.2) := by
  simp only [content, kind, Required.kinds]
  rfl

theorem content_cases (builder : Builder) {tokens : List Token} (legible : Legible tokens) :
    (∃ (content : Content) (rest : List Token), builder.content tokens = .ok (content, rest) ∧
        Says builder.depth builder.depth tokens rest content.statement? ∧
        (rest = tokens → ∀ token ∈ tokens.head?, token.kind = .whiteSpace ∨
          token.kind ∈ tagSigns ∨ beginning false token.kind = none)) ∨
      ∃ fault, builder.content tokens = .error fault ∧
        (phrase false).verdict builder.depth tokens = some fault := by
  cases tokens with
  | nil => exact .inl ⟨.absent, [], rfl, says_nothing _ _, by simp⟩
  | cons token rest =>
    have step {next : Expects} (begins : beginning false token.kind = some next) :
        (phrase false).after token = some next := begins
    have shorter {others : List Token} (ends : others <:+ rest) : others ≠ token :: rest := by
      rintro rfl
      have bound := ends.length_le
      rw [List.length_cons] at bound
      omega
    cases kind : token.kind with
    | codeIdentifier =>
      rcases expect_says (step (by rw [kind]; rfl)) (by simp [kind]) (by decide) rfl
        builder.depth rest with ⟨code, others, rfl, found, told⟩ | ⟨fault, failed, told⟩
      · have ends : others <:+ code.val :: others := List.suffix_cons ..
        have result := content_code builder kind (code.val :: others)
        rw [found] at result
        refine .inl ⟨_, _, result, ⟨ends.trans (List.suffix_cons ..), ?_, ?_⟩,
          fun same => absurd same (shorter ends)⟩ <;>
          by_cases deeper : builder.goesDeeper others = true <;>
          simp [deeper, Content.statement?, told, codeFault?]
      · exact .inr ⟨fault, by rw [content_code builder kind, failed]; rfl, told⟩
    | silentCodeIdentifier =>
      rcases expect_says (step (by rw [kind]; rfl)) (by simp [kind]) (by decide) rfl
        builder.depth rest with ⟨code, others, rfl, found, told⟩ | ⟨fault, failed, told⟩
      · have ends : others <:+ code.val :: others := List.suffix_cons ..
        have result := content_silent builder kind (code.val :: others)
        have readable : Readable code.val.content :=
          legible code.val (by simp) code.kind_eq
        rw [found] at result
        refine .inl ⟨_, _, result, ⟨ends.trans (List.suffix_cons ..), ?_, ?_⟩,
          fun same => absurd same (shorter ends)⟩ <;>
          by_cases deeper : builder.goesDeeper others = true <;>
          simp [deeper, Content.statement?, told, codeFault?, statementOf_eq, readable,
            readable_headerOf readable]
      · exact .inr ⟨fault, by rw [content_silent builder kind, failed]; rfl, told⟩
    | commentIdentifier =>
      rcases expect_says (step (by rw [kind]; rfl)) (by simp [kind]) (by decide) rfl
        builder.depth rest with ⟨note, others, rfl, found, told⟩ | ⟨fault, failed, told⟩
      · have ends : others <:+ note.val :: others := List.suffix_cons ..
        have result := content_comment builder kind (note.val :: others)
        rw [found] at result
        refine .inl ⟨_, _, result, ⟨ends.trans (List.suffix_cons ..), told, ?_⟩,
          fun same => absurd same (shorter ends)⟩
        simp [comment, Content.statement?]
      · exact .inr ⟨fault, by rw [content_comment builder kind, failed]; rfl, told⟩
    | comment =>
      refine .inl ⟨comment token, rest, by simp only [content, kind], ?_,
        fun same => absurd same (shorter (List.suffix_refl _))⟩
      exact says_alone (step (by rw [kind]; rfl)) (by simp [kind]) _ _
    | text =>
      refine .inl ⟨.output .escaped (Fragment.literalBody token.content), rest,
        by simp only [content, kind], ?_, fun same => absurd same (shorter (List.suffix_refl _))⟩
      exact says_alone (step (by rw [kind]; rfl)) (by simp [kind]) _ _
    | _ =>
      refine .inl ⟨.absent, token :: rest, by simp only [content, kind], says_nothing _ _, ?_⟩
      rintro _ _ ⟨⟩
      simp [kind, tagSigns, beginning]

/-! ### Turns -/

end Builder

namespace Program

open Markup Expects Builder

end Program

end Stencil
