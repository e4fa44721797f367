import Stencil.Proofs.Turn.Verdict

/-!
Which sequences of tokens become programs, and which token is blamed where one does not.
-/

set_option autoImplicit false

namespace Stencil

namespace Markup

/-- The depth of the line that the tokens end in. -/
def depthOf (tokens : List Token) : Nat := tokens.foldl depthBehind 0

/-- Whether the tokens go on, behind a sign of silent code, with a statement that is nested too
deeply. -/
def DeepBehind (tokens before : List Token) : Prop :=
  ∃ (code : Token) (after : List Token), tokens = before ++ code :: after ∧
    (∃ sign ∈ before.getLast?, sign.kind = .silentCodeIdentifier) ∧ Viable (before ++ [code]) ∧
    Script.assignedNames (statementOf (depthOf before) code.content after) = .error .tooDeep

/-- A token behind which nothing accepted can go on, the first one of its kind. -/
structure Impossible (tokens before : List Token) (token : Token) : Prop where
  here : ∃ after, tokens = before ++ token :: after
  viable : Viable before
  stuck : ¬Viable (before ++ [token])

namespace Expects

open Builder (tagValueKinds attributeValueKinds)

theorem beginning_silent {tagged : Bool} {kind : TokenKind} {next : Expects}
    (begins : beginning tagged kind = some next) :
    next = required (.expression true) ↔ kind = .silentCodeIdentifier := by
  cases kind <;> cases tagged <;> simp [beginning] at begins <;> simp [← begins]

theorem after_silent {expects next : Expects} {token : Token}
    (step : expects.after token = some next) :
    next = required (.expression true) ↔ token.kind = .silentCodeIdentifier := by
  cases expects with
  | start =>
    rw [after] at step
    by_cases starts : token.kind = .docTypeIdentifier
    next =>
      rw [if_pos starts] at step
      cases step
      simp [starts]
    next =>
      rw [if_neg starts] at step
      exact beginning_silent step
  | docType =>
    rw [after] at step
    by_cases names : token.kind = .docType
    next =>
      rw [if_pos names] at step
      split at step
      next =>
        cases step
        simp [names]
      next => cases step
    next =>
      rw [if_neg names] at step
      exact beginning_silent step
  | phrase tagged => exact beginning_silent step
  | required what =>
    rw [after] at step
    split at step
    next kind =>
      cases step
      have apart : token.kind ≠ .silentCodeIdentifier := by
        rintro same
        rw [same] at kind
        cases what <;> simp [Required.kinds, tagValueKinds, attributeValueKinds] at kind
      cases what <;> simp [Required.next, apart]
    next => cases step

theorem reads_concat {before : List Token} {token : Token} {expects : Expects}
    (read : start.reads (before ++ [token]) = some expects) :
    ∃ middle, start.reads before = some middle ∧ middle.after token = some expects := by
  rw [reads_append] at read
  obtain ⟨middle, first, read⟩ := Option.bind_eq_some_iff.mp read
  obtain ⟨last, step, read⟩ := Option.bind_eq_some_iff.mp read
  cases read
  exact ⟨middle, first, step⟩

theorem reads_silent {before : List Token} {expects : Expects}
    (read : start.reads before = some expects) :
    expects = required (.expression true) ↔
      ∃ sign ∈ before.getLast?, sign.kind = .silentCodeIdentifier := by
  rcases List.eq_nil_or_concat before with rfl | ⟨earlier, sign, rfl⟩
  · cases read
    simp
  · rw [List.concat_eq_append] at read ⊢
    obtain ⟨middle, _, step⟩ := reads_concat read
    simp [after_silent step]

theorem viable_concat {before : List Token} {token : Token} {expects : Expects}
    (quoted : Quoted (before ++ [token])) (read : start.reads before = some expects) :
    Viable (before ++ [token]) ↔ ∃ next, expects.after token = some next := by
  rw [viable_iff quoted]
  constructor
  · rintro ⟨last, whole⟩
    obtain ⟨middle, first, step⟩ := reads_concat whole
    cases read.symm.trans first
    exact ⟨last, step⟩
  · rintro ⟨next, step⟩
    exact ⟨next, by rw [reads_append, read, Option.bind_some, reads, step]; rfl⟩

/-- Where a statement that is nested too deeply comes next. -/
theorem deepBehind_iff {tokens before : List Token} (quoted : Quoted tokens) :
    DeepBehind tokens before ↔ ∃ (code : Token) (after : List Token),
      tokens = before ++ code :: after ∧
      start.reads before = some (required (.expression true)) ∧ code.kind = .expression ∧
      Script.assignedNames (statementOf (depthOf before) code.content after) =
        .error .tooDeep := by
  constructor
  · rintro ⟨code, after, rfl, signed, viable, deep⟩
    obtain ⟨next, read⟩ := reads_of_viable viable
    obtain ⟨middle, first, step⟩ := reads_concat read
    obtain rfl := (reads_silent first).mpr signed
    refine ⟨code, after, rfl, first, ?_, deep⟩
    refine Decidable.byContradiction fun other => ?_
    simp [Expects.after, Required.kinds, other] at step
  · rintro ⟨code, after, rfl, read, kind, deep⟩
    refine ⟨code, after, rfl, (reads_silent read).mp rfl, ?_, deep⟩
    have inside : Quoted (before ++ [code]) := by
      intro token member
      refine quoted token ?_
      simp only [List.mem_append, List.mem_singleton] at member
      rcases member with early | rfl
      · exact List.mem_append_left _ early
      · simp
    rw [viable_concat inside read]
    exact ⟨phrase false, by simp [Expects.after, Required.kinds, kind, Required.next]⟩

/-! ### The course of reading -/

/-- How far a sequence of tokens is read, and what comes of it. -/
inductive Course (tokens : List Token) : Option CompileError → Prop where
  | done (last : Expects) (read : start.reads tokens = some last)
      (complete : last.isComplete = true) (shallow : ∀ before, ¬DeepBehind tokens before) :
      Course tokens none
  | ended (what : Required) (read : start.reads tokens = some (required what))
      (shallow : ∀ before, ¬DeepBehind tokens before) : Course tokens (some .unexpectedEnd)
  | deep (before : List Token) (deep : DeepBehind tokens before) : Course tokens (some .deepCode)
  | refused (before : List Token) (token : Token) (after : List Token) (expects : Expects)
      (same : tokens = before ++ token :: after) (read : start.reads before = some expects)
      (stuck : expects.after token = none) (shallow : ∀ earlier, ¬DeepBehind tokens earlier) :
      Course tokens (some (expects.refuse token))

theorem codeFault?_eq_some {tokens before rest : List Token} {token : Token}
    {expects next : Expects} {fault : CompileError} (quoted : Quoted tokens)
    (same : tokens = before ++ token :: rest) (read : start.reads before = some expects)
    (step : expects.after token = some next) :
    expects.codeFault? (depthOf before) token rest = some fault ↔
      DeepBehind tokens before ∧ fault = .deepCode := by
  rw [deepBehind_iff quoted]
  constructor
  · intro wrong
    match expects, read, step, wrong with
    | required (.expression true), read, step, wrong =>
      obtain ⟨deep, rfl⟩ := depthFault?_eq_some.mp wrong
      refine ⟨⟨token, rest, same, read, ?_, deep⟩, rfl⟩
      refine Decidable.byContradiction fun other => ?_
      simp [after, Required.kinds, other] at step
  · rintro ⟨⟨code, after, split, silent, kind, deep⟩, rfl⟩
    cases List.append_cancel_left (same.symm.trans split)
    cases read.symm.trans silent
    exact depthFault?_eq_some.mpr ⟨deep, rfl⟩

theorem not_deepBehind_of_stuck {tokens before after : List Token} {token : Token}
    {expects : Expects} (quoted : Quoted tokens) (same : tokens = before ++ token :: after)
    (read : start.reads before = some expects) (stuck : expects.after token = none)
    {earlier : List Token} (late : before.length ≤ earlier.length) :
    ¬DeepBehind tokens earlier := by
  rw [deepBehind_iff quoted]
  rintro ⟨code, others, split, silent, kind, _⟩
  have begins : before <+: earlier :=
    List.prefix_of_prefix_length_le ⟨_, same.symm⟩ ⟨_, split.symm⟩ late
  obtain ⟨between, rfl⟩ := begins
  rw [same, List.append_assoc] at split
  rw [reads_append, read, Option.bind_some] at silent
  cases between with
  | nil =>
    cases List.append_cancel_left split
    cases silent
    simp [Expects.after, Required.kinds, kind] at stuck
  | cons one more =>
    cases List.append_cancel_left split
    rw [reads, stuck] at silent
    cases silent

theorem course {tokens : List Token} (quoted : Quoted tokens) {before after : List Token}
    {expects : Expects} (same : tokens = before ++ after)
    (read : start.reads before = some expects)
    (sound : ∀ earlier, earlier.length < before.length → ¬DeepBehind tokens earlier) :
    Course tokens (expects.verdict (depthOf before) after) := by
  induction after generalizing before expects with
  | nil =>
    rw [List.append_nil] at same
    subst same
    have shallow (earlier : List Token) : ¬DeepBehind tokens earlier := by
      intro deep
      obtain ⟨code, others, split, _⟩ := id deep
      refine sound earlier ?_ deep
      rw [split, List.length_append, List.length_cons]
      omega
    cases expects with
    | required what => exact .ended what read shallow
    | _ => exact .done _ read rfl shallow
  | cons token rest ih =>
    cases step : expects.after token with
    | none =>
      rw [verdict_refused step]
      refine .refused before token rest expects same read step fun earlier => ?_
      rcases Nat.lt_or_ge earlier.length before.length with less | late
      · exact sound earlier less
      · exact not_deepBehind_of_stuck quoted same read step late
    | some next =>
      rw [verdict_cons step]
      cases wrong : expects.codeFault? (depthOf before) token rest with
      | some fault =>
        obtain ⟨deep, rfl⟩ := (codeFault?_eq_some quoted same read step).mp wrong
        exact .deep before deep
      | none =>
        have shallow : ¬DeepBehind tokens before := by
          intro deep
          rw [(codeFault?_eq_some quoted same read step).mpr ⟨deep, rfl⟩] at wrong
          cases wrong
        have level : depthOf (before ++ [token]) = depthBehind (depthOf before) token := by
          rw [depthOf, List.foldl_append]
          rfl
        rw [Option.none_or, ← level]
        refine ih (by rw [same, List.append_assoc]; rfl) ?_ fun earlier less deep => ?_
        · rw [reads_append, read, Option.bind_some, reads, step]
          rfl
        · obtain ⟨code, others, split, _⟩ := id deep
          rw [List.length_append, List.length_singleton] at less
          rcases Nat.lt_or_ge earlier.length before.length with sooner | late
          · exact sound earlier sooner deep
          · -- Of two beginnings of one length there is only one.
            have equal : before = earlier := by
              refine (List.prefix_of_prefix_length_le (⟨_, same.symm⟩ : before <+: tokens)
                ⟨_, split.symm⟩ late).eq_of_length ?_
              omega
            exact shallow (equal ▸ deep)

/-! ### Blame -/

end Expects

theorem Viable.of_prefix {first whole : List Token} (viable : Viable whole)
    (begins : first <+: whole) : Viable first := by
  obtain ⟨between, rfl⟩ := begins
  obtain ⟨more, accepted⟩ := viable
  exact ⟨between ++ more, by rwa [← List.append_assoc]⟩

theorem Accepted.viable {tokens : List Token} (accepted : Accepted tokens) : Viable tokens :=
  ⟨[], by rwa [List.append_nil]⟩

/-- Only one token can be the first that is impossible. -/
theorem Impossible.unique {tokens one other : List Token} {token next : Token}
    (first : Impossible tokens one token) (second : Impossible tokens other next) :
    one = other ∧ token = next := by
  obtain ⟨after, same⟩ := first.here
  obtain ⟨later, again⟩ := second.here
  have left : one ++ [token] <+: tokens := ⟨after, by simp [same]⟩
  have right : other ++ [next] <+: tokens := ⟨later, by simp [again]⟩
  rcases Nat.lt_trichotomy one.length other.length with less | equal | more
  · exact absurd (second.viable.of_prefix (List.prefix_of_prefix_length_le left ⟨_, again.symm⟩
      (by simpa using Nat.succ_le_of_lt less))) first.stuck
  · have whole := List.append_inj (same.symm.trans again) equal
    exact ⟨whole.1, (List.cons.inj whole.2).1⟩
  · exact absurd (first.viable.of_prefix (List.prefix_of_prefix_length_le right ⟨_, same.symm⟩
      (by simpa using Nat.succ_le_of_lt more))) second.stuck

end Markup

namespace Program

open Markup Expects Builder

end Program

end Stencil
