import Stencil.Proofs.Turn.Recast

/-!
Where a run over tokens fails: the line it does not get past and, where one is to blame, the token.
Neither depends on how wide the indentations are.
-/

set_option autoImplicit false

namespace Stencil

theorem CompileError.token?_unplaced (error : CompileError) :
    error.unplaced.token? = error.token?.map Token.unplaced := by
  cases error <;> rfl

namespace Builder

/-- How many tokens are left at the line that a run fails at. -/
def stuck? (builder : Builder) (tokens : List Token) : Option Nat :=
  match tokens with
  | [] => none
  | token :: others =>
    match builder.step (token :: others) with
    | .error _ => some (others.length + 1)
    | .ok (next, rest) =>
      if rest.length ≤ others.length then next.stuck? rest else some (others.length + 1)
termination_by tokens.length

theorem stuck?_isSome (builder : Builder) (tokens : List Token) :
    (builder.stuck? tokens).isSome = !(builder.run tokens).toOption.isSome := by
  induction size : tokens.length using Nat.strongRecOn generalizing builder tokens with
  | ind size ih =>
    cases tokens with
    | nil =>
      rw [stuck?, run]
      rfl
    | cons token others =>
      rw [stuck?, run]
      cases builder.step (token :: others) with
      | error fault => rfl
      | ok found =>
        obtain ⟨next, rest⟩ := found
        simp only [Outcome.ok_bind]
        by_cases shorter : rest.length ≤ others.length
        next =>
          have less : rest.length < (token :: others).length := Nat.lt_succ_of_le shorter
          rw [if_pos shorter, if_pos shorter, ih _ (size ▸ less) next rest rfl]
        next =>
          rw [if_neg shorter, if_neg shorter]
          rfl

variable {widen : Nat → Nat} {change : Token → Token}

theorem stuck?_recast (recasts : Recasts widen change) {builder other : Builder}
    (deepens : Deepens widen builder other) (tokens : List Token) :
    other.stuck? (tokens.map change) = builder.stuck? tokens := by
  induction size : tokens.length using Nat.strongRecOn generalizing builder other tokens with
  | ind size ih =>
    cases tokens with
    | nil =>
      rw [List.map_nil, stuck?, stuck?]
    | cons token others =>
      rw [List.map_cons, stuck?, stuck?, ← List.map_cons, step_eq, step_eq,
        readTurn_recast recasts deepens]
      cases builder.readTurn (token :: others) with
      | error fault => simp
      | ok found =>
        obtain ⟨turn, rest⟩ := found
        have taken := takeTurn_alongside deepens recasts.grows recasts.flush turn
        simp only [recast_ok, behind, Outcome.ok_bind]
        generalize builder.takeTurn turn = first at taken ⊢
        generalize other.takeTurn (turn.deepened widen) = second at taken ⊢
        cases taken with
        | error untold => simp
        | ok same =>
          simp only [Outcome.ok_bind, pure, Except.pure, List.length_map]
          by_cases shorter : rest.length ≤ others.length
          next =>
            have less : rest.length < (token :: others).length := Nat.lt_succ_of_le shorter
            rw [if_pos shorter, if_pos shorter, ih _ (size ▸ less) same rest rfl]
          next => rw [if_neg shorter, if_neg shorter]

end Builder

namespace Program

open Builder

/-- How many tokens are left at the line where there is no program. -/
def stuck? (tokens : List Token) : Option Nat :=
  match initial.docType tokens with
  | .error _ => some tokens.length
  | .ok (builder, rest) => builder.stuck? rest

/-- Tokens that have their places in the sequence for offsets. -/
def numbered (start : Nat) : List Token → List Token
  | [] => []
  | token :: rest => { token with offset := start } :: numbered (start + 1) rest

/-- The place of the token at fault. -/
def faultPlace? (tokens : List Token) (contextType : Text) : Option Nat :=
  match ofTokens (numbered 0 tokens) contextType with
  | .error error => error.token?.map Token.offset
  | .ok _ => none

/-- A run gets stuck if and only if there is no program. -/
theorem stuck?_isSome (tokens : List Token) (contextType : Text) :
    (stuck? tokens).isSome = !(ofTokens tokens contextType).toOption.isSome := by
  rw [stuck?, ofTokens]
  cases initial.docType tokens with
  | error fault => rfl
  | ok found =>
    obtain ⟨builder, rest⟩ := found
    simp only [Outcome.ok_bind, Builder.stuck?_isSome]
    cases builder.run rest <;> rfl

theorem stuck?_recast {widen : Nat → Nat} {change : Token → Token} (recasts : Recasts widen change)
    (tokens : List Token) : stuck? (tokens.map change) = stuck? tokens := by
  rw [stuck?, stuck?, docType_eq, docType_eq, docTurns_recast recasts]
  cases docTurns tokens with
  | error fault => simp
  | ok found =>
    obtain ⟨first, rest⟩ := found
    have taken := takeTurns_alongside (deepens_initial widen) recasts.grows recasts.flush first
    simp only [recast_ok, behind, Outcome.ok_bind]
    generalize initial.takeTurns first = one at taken ⊢
    generalize initial.takeTurns (first.map (Turn.deepened widen)) = other at taken ⊢
    cases taken with
    | error untold => simp
    | ok same =>
      simp only [Outcome.ok_bind, pure, Except.pure]
      exact Builder.stuck?_recast recasts same rest

theorem map_unplaced_numbered (start : Nat) (tokens : List Token) :
    (numbered start tokens).map Token.unplaced = tokens.map Token.unplaced := by
  induction tokens generalizing start with
  | nil => rfl
  | cons token rest ih =>
    rw [numbered, List.map_cons, List.map_cons, ih]
    rfl

theorem mem_numbered {start : Nat} {tokens : List Token} {token : Token}
    (member : token ∈ numbered start tokens) :
    ∃ (place : Nat) (one : Token), tokens[place]? = some one ∧
      token = { one with offset := start + place } := by
  induction tokens generalizing start with
  | nil => cases member
  | cons first rest ih =>
    rcases List.mem_cons.mp member with rfl | later
    · exact ⟨0, first, rfl, rfl⟩
    · obtain ⟨place, one, found, rfl⟩ := ih later
      exact ⟨place + 1, one, found, by rw [Nat.add_comm place, Nat.add_assoc]⟩

/-- At the place of the token at fault stands the token that is told. -/
theorem faultPlace?_spec {tokens : List Token} {contextType : Text} {error : CompileError}
    (failed : ofTokens tokens contextType = .error error) :
    (faultPlace? tokens contextType).bind (fun place => tokens[place]?.map Token.unplaced) =
      error.token?.map Token.unplaced := by
  have same := ofTokens_eq_of_unplaced contextType (map_unplaced_numbered 0 tokens)
  rw [failed] at same
  rw [faultPlace?]
  cases placed : ofTokens (numbered 0 tokens) contextType with
  | ok program =>
    rw [placed] at same
    cases same
  | error other =>
    rw [placed] at same
    have alike : other.unplaced = error.unplaced := Except.error.inj same
    have told : other.token?.map Token.unplaced = error.token?.map Token.unplaced := by
      rw [← CompileError.token?_unplaced, alike, CompileError.token?_unplaced]
    cases blamed : other.token? with
    | none => simpa [blamed] using told
    | some token =>
      obtain ⟨place, one, found, rfl⟩ := mem_numbered (mem_of_fault placed blamed)
      rw [← told]
      simp [blamed, found, Token.unplaced]

end Program

end Stencil
