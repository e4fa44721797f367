import Stencil.Proofs.Locality.Embedded
import Stencil.Proofs.Static.Running
import Stencil.Proofs.Tag.Part

/-!
What the sum of a line's parts gives: the texts of the parts, which are made one after the other from the
left, up to the first that fails.
-/

set_option autoImplicit false

namespace Stencil.Script

open Module

/-! ### Runs that may go deep enough -/

section Comes

variable {α β : Type} {run run' : Nat → Run α} {next : α → Nat → Run β} {store middle later : Store}
  {value : α} {failure : Failure} {result : EStateM.Result Failure Store β}

/-- What a run comes to once it may go deep enough. -/
def Comes (run : Nat → Run α) (store : Store) (result : EStateM.Result Failure Store α) : Prop :=
  ∃ need, ∀ fuel, need ≤ fuel → run fuel store = result

theorem Comes.bind (first : Comes run store (.ok value middle)) (behind : Comes (next value) middle result) :
    Comes (fun fuel => do next (← run fuel) fuel) store result := by
  obtain ⟨need, first⟩ := first
  obtain ⟨more, behind⟩ := behind
  refine ⟨max need more, fun fuel enough => ?_⟩
  have here := first fuel (by omega)
  have there := behind fuel (by omega)
  change (run fuel >>= fun value => next value fuel) store = result
  rw [Outcome.bind_apply, here]
  exact there

theorem Comes.stop (first : Comes run store (.error failure later)) :
    Comes (fun fuel => do next (← run fuel) fuel) store (.error failure later) := by
  obtain ⟨need, first⟩ := first
  refine ⟨need, fun fuel enough => ?_⟩
  change (run fuel >>= fun value => next value fuel) store = .error failure later
  rw [Outcome.bind_apply, first fuel enough]

/-- A run that does the same some levels deeper. -/
theorem Comes.deeper {result : EStateM.Result Failure Store α} (comes : Comes run store result) (levels : Nat)
    (same : ∀ fuel, run' (fuel + levels) store = run fuel store) : Comes run' store result := by
  obtain ⟨need, comes⟩ := comes
  refine ⟨need + levels, fun fuel enough => ?_⟩
  obtain ⟨less, rfl⟩ := Nat.exists_eq_add_of_le' (Nat.le_trans (Nat.le_add_left levels need) enough)
  rw [same, comes less (by omega)]

end Comes

namespace Spliced

open Grammar

abbrev Result (α : Type) := EStateM.Result Failure Store α

namespace Result

/-- A text behind other text. -/
def behind (points : Points) : Result Points → Result Points
  | .ok more later => .ok (points ++ more) later
  | .error failure later => .error failure later

def value : Result Points → Result Value
  | .ok points later => .ok (.ofPoints points) later
  | .error failure later => .error failure later

theorem behind_nil (result : Result Points) : behind [] result = result := by
  cases result <;> rfl

theorem behind_append (points more : Points) (result : Result Points) :
    behind (points ++ more) result = behind points (behind more result) := by
  cases result with
  | ok => simp [behind]
  | error => rfl

end Result

/-- Where the function that escapes can be called by its name. -/
structure Escapes (env : Env) (store : Store) : Prop where
  ready : Ready env.globals store
  named : Names.value escapeName env store = .ok (.function (env.globals + 1)) store
  shallow : env.depth < maximalCalls

/-- The text of what an expression gives. -/
def shown (fuel : Nat) (env : Env) (tree : Expr) : Run Points := do
  (← eval fuel env tree).displayPoints

theorem shown_value (fuel : Nat) (env : Env) (tree : Expr) (store : Store) :
    (do
      let value ← eval fuel env tree
      return .ofPoints (← value.displayPoints) : Run Value) store =
        Result.value (shown fuel env tree store) := by
  rw [shown, Outcome.bind_apply, Outcome.bind_apply]
  cases eval fuel env tree store with
  | error => rfl
  | ok value later =>
    simp only [Outcome.bind_apply]
    cases value.displayPoints later <;> rfl

/-- What a part gives. The call that escapes a text leaves its variables, and the code of a value is an
expression whose value is shown, where the name for that has not got another meaning. -/
def Part.Shows (env : Env) (store : Store) (result : Result Points) : Part → Prop
  | .piece ⟨false, content⟩ => result = .ok (Points.ofText content) store
  | .piece ⟨true, content⟩ => Escapes env store ∧
      result = .ok (Points.ofText (Builtin.escapeText false content))
        (store.push (.bindings [("text".toList, .text content)]))
  | .value code => ∃ tree, readExpression code = some tree ∧
      Names.value "str".toList env store = .ok (.builtin .string) store ∧
      Comes (fun fuel => shown fuel env tree) store result

/-- What parts give from the left to the right. -/
inductive Shows (env : Env) : List Part → Store → Result Points → Prop where
  | nil (store : Store) : Shows env [] store (.ok [] store)
  | next {part : Part} {parts : List Part} {store middle : Store} {points : Points}
      {result : Result Points} (first : part.Shows env store (.ok points middle))
      (others : Shows env parts middle result) :
      Shows env (part :: parts) store (Result.behind points result)
  | stop {part : Part} {parts : List Part} {store later : Store} {failure : Failure}
      (first : part.Shows env store (.error failure later)) :
      Shows env (part :: parts) store (.error failure later)

variable {env : Env} {store middle later : Store} {part : Part} {parts others : List Part}
  {content : Text} {points : Points} {result : Result Points}

/-! ### Values -/

theorem Part.Shows.comes (shows : part.Shows env store result) :
    Comes (fun fuel => eval fuel env part.expr) store result.value := by
  match part, shows with
  | .piece ⟨false, content⟩, shows =>
    cases shows
    refine ⟨1, fun fuel enough => ?_⟩
    obtain ⟨less, rfl⟩ := Nat.exists_eq_add_of_le' enough
    rfl
  | .piece ⟨true, content⟩, ⟨escapes, same⟩ =>
    cases same
    refine ⟨8, fun fuel enough => ?_⟩
    obtain ⟨less, rfl⟩ := Nat.exists_eq_add_of_le' enough
    have argument : eval (less + 6) env (.constant (.string (Points.ofText content))) store =
        .ok (.text content) store := by
      rw [eval, constantValue, ofPoints_ofText]
      rfl
    rw [Result.value, ofPoints_ofText]
    exact eval_call escapes.named (evalArguments_single rfl argument)
      (call_escape escapes.ready escapes.shallow content)
  | .value code, ⟨tree, read, builtin, comes⟩ =>
    have call : Part.expr (.value code) = stringOf [.positional tree] := by
      simp [Part.expr, read]
    rw [call]
    obtain ⟨need, comes⟩ := comes
    refine ⟨need + 3, fun fuel enough => ?_⟩
    obtain ⟨less, rfl⟩ := Nat.exists_eq_add_of_le' (Nat.le_trans (Nat.le_add_left 3 need) enough)
    have shown : Spliced.shown (less + 1) env tree store = result := comes (less + 1) (by omega)
    change eval (less + 3) env (stringOf [.positional tree]) store = result.value
    rw [eval_stringOf less (unstarred_readExpression read) builtin, ← shown]
    exact shown_value (less + 1) env tree store

/-! ### Sums -/

/-- Adds the value of an expression. -/
def increased (env : Env) (other : Expr) (left : Value) (fuel : Nat) : Run Value := do
  let right ← eval fuel env other
  Value.binary .add left right

theorem comes_binary {first other : Expr} {outcome : Result Value}
    (comes : Comes (fun fuel => do increased env other (← eval fuel env first) fuel) store outcome) :
    Comes (fun fuel => eval fuel env (.binary .add first other)) store outcome :=
  comes.deeper 1 fun fuel => by rw [eval]; rfl

theorem comes_increased {other : Expr} {more : Points}
    (comes : Comes (fun fuel => eval fuel env other) store (.ok (.ofPoints more) later)) :
    Comes (increased env other (.ofPoints points)) store (.ok (.ofPoints (points ++ more)) later) := by
  obtain ⟨need, comes⟩ := comes
  refine ⟨need, fun fuel enough => ?_⟩
  have right : eval fuel env other store = .ok (.ofPoints more) later := comes fuel enough
  simp only [increased, Outcome.bind_apply, right, binary_add_points, Outcome.pure_apply]

theorem comes_sum_error {first : Expr} {failure : Failure} (others : List Expr)
    (fails : Comes (fun fuel => eval fuel env first) store (.error failure later)) :
    Comes (fun fuel => eval fuel env (sumOf first others)) store (.error failure later) := by
  induction others generalizing first with
  | nil => exact fails
  | cons other others ih => exact ih (comes_binary fails.stop)

theorem comes_sum {first : Expr}
    (comes : Comes (fun fuel => eval fuel env first) store (.ok (.ofPoints points) middle))
    (shows : Shows env parts middle result) :
    Comes (fun fuel => eval fuel env (sumOf first (parts.map Part.expr))) store
      (Result.behind points result).value := by
  induction shows generalizing first points store with
  | nil middle =>
    rw [Result.behind, List.append_nil]
    exact comes
  | next one others ih =>
    rw [← Result.behind_append]
    exact ih (comes_binary (comes.bind (comes_increased one.comes)))
  | @stop _ parts _ _ _ one =>
    exact comes_sum_error (parts.map Part.expr) (comes_binary (comes.bind one.comes.stop))

/-- The sum of parts gives what these give. -/
theorem Shows.comes (shows : Shows env (part :: parts) store result) :
    Comes (fun fuel => eval fuel env (sumOf part.expr (parts.map Part.expr))) store
      result.value := by
  cases shows with
  | next one others => exact comes_sum one.comes others
  | stop one => exact comes_sum_error _ one.comes

/-! ### Other parts of the same text -/

theorem Shows.join (shows : Shows env parts store result) (same : result = .ok points middle)
    {last : Result Points} (behind : Shows env others middle last) :
    Shows env (parts ++ others) store (Result.behind points last) := by
  induction shows generalizing points with
  | nil store =>
    cases same
    rw [Result.behind_nil]
    exact behind
  | @next _ _ _ _ _ more one _ ih =>
    cases more with
    | error => cases same
    | ok =>
      cases same
      rw [Result.behind_append]
      exact .next one (ih rfl)
  | stop => cases same

theorem Shows.fail (shows : Shows env parts store result) {failure : Failure}
    (same : result = .error failure later) (others : List Part) :
    Shows env (parts ++ others) store (.error failure later) := by
  induction shows with
  | nil => cases same
  | @next _ _ _ _ points more one _ ih =>
    cases more with
    | ok => cases same
    | error =>
      cases same
      exact .next one (ih rfl)
  | stop one =>
    cases same
    exact .stop one

theorem Shows.split (shows : Shows env (parts ++ others) store result) :
    (∃ points middle last, Shows env parts store (.ok points middle) ∧ Shows env others middle last ∧
      result = Result.behind points last) ∨
    ∃ failure later, Shows env parts store (.error failure later) ∧ result = .error failure later := by
  induction parts generalizing store result with
  | nil => exact .inl ⟨[], store, result, .nil store, shows, (Result.behind_nil result).symm⟩
  | cons part parts ih =>
    cases shows with
    | @next _ _ _ _ points more one rest =>
      rcases ih rest with ⟨added, middle, last, first, second, rfl⟩ | ⟨failure, later, first, rfl⟩
      · refine .inl ⟨points ++ added, middle, last, .next one first, second, ?_⟩
        exact (Result.behind_append points added last).symm
      · exact .inr ⟨failure, later, .next one first, rfl⟩
    | stop one => exact .inr ⟨_, _, .stop one, rfl⟩

/-- What the first parts give the others give too. -/
def Refines (parts others : List Part) : Prop :=
  ∀ env store result, Shows env parts store result → Shows env others store result

theorem Refines.refl (parts : List Part) : Refines parts parts := fun _ _ _ shows => shows

theorem Refines.trans {more : List Part} (first : Refines parts others)
    (second : Refines others more) : Refines parts more :=
  fun env store result shows => second env store result (first env store result shows)

theorem Refines.append {parts' others' : List Part} (first : Refines parts parts')
    (second : Refines others others') : Refines (parts ++ others) (parts' ++ others') := by
  intro env store result shows
  rcases shows.split with ⟨points, middle, last, one, two, rfl⟩ | ⟨failure, later, one, rfl⟩
  · exact (first _ _ _ one).join rfl (second _ _ _ two)
  · exact (first _ _ _ one).fail rfl others'

theorem shows_text :
    Shows env (.text content :: parts) store result ↔
      ∃ more, Shows env parts store more ∧ result = Result.behind (Points.ofText content) more := by
  constructor
  next =>
    intro shows
    cases shows with
    | next one rest =>
      cases one
      exact ⟨_, rest, rfl⟩
    | stop one => cases one
  next =>
    rintro ⟨more, rest, rfl⟩
    exact .next rfl rest

theorem shows_empty : Shows env (.text [] :: parts) store result ↔ Shows env parts store result := by
  rw [shows_text]
  constructor
  next =>
    rintro ⟨more, rest, rfl⟩
    exact (Result.behind_nil more).symm ▸ rest
  next => exact fun rest => ⟨result, rest, (Result.behind_nil result).symm⟩

/-- Parts that give texts and leave everything as it is. -/
theorem shows_texts {pairs : List (Part × Text)}
    (each : ∀ pair ∈ pairs, pair.1.Shows env store (.ok (Points.ofText pair.2) store)) :
    Shows env (pairs.map (·.1)) store (.ok (Points.ofText (pairs.flatMap (·.2))) store) := by
  induction pairs with
  | nil => exact .nil store
  | cons pair pairs ih =>
    obtain ⟨first, others⟩ := List.forall_mem_cons.mp each
    have together : Points.ofText ((pair :: pairs).flatMap (·.2)) =
        Points.ofText pair.2 ++ Points.ofText (pairs.flatMap (·.2)) := by
      simp [Points.ofText]
    rw [together]
    exact .next first (ih others)

/-- Texts beside each other become one literal. -/
theorem refines_opened (content : Text) (parts : List Part) :
    Refines (.text content :: parts) (opened content parts) := by
  fun_induction opened content parts with
  | case1 content => exact .refl _
  | case2 content more rest ih =>
    intro env store result shows
    obtain ⟨_, both, rfl⟩ := shows_text.mp shows
    obtain ⟨last, others, rfl⟩ := shows_text.mp both
    have together : Points.ofText (content ++ more) = Points.ofText content ++ Points.ofText more := by
      simp [Points.ofText]
    rw [← Result.behind_append, ← together]
    exact ih _ _ _ (shows_text.mpr ⟨last, others, rfl⟩)
  | case3 content part rest other ih =>
    have first : Refines [.text content, part] [.text content, part] := .refl _
    exact first.append fun _ _ _ shows => ih _ _ _ (shows_empty.mpr shows)

/-! ### Lines -/

/-- Code that is a sum of what the parts give. -/
def IsSumOf (parts : List Part) (code : Text) : Prop :=
  ∃ part others, code = sumText (part :: others) ∧ Refines parts (part :: others) ∧
    ((∀ one ∈ parts, one.Legible) → ∀ one ∈ part :: others, one.Legible)

theorem isSumOf_code (part : Part) : IsSumOf [part] part.code :=
  ⟨part, [], (sumText_single part).symm, .refl _, fun legible => legible⟩

/-- A literal with all its parts. -/
theorem isSumOf_literal (content : Text) (parts : List Part) :
    IsSumOf (.text content :: parts)
      (literalOf (Fragment.literalBody content ++ parts.flatMap Part.body)) := by
  obtain ⟨part, others, same⟩ := List.exists_cons_of_ne_nil (opened_ne_nil content parts)
  refine ⟨part, others, ?_, same ▸ refines_opened content parts, fun legible => ?_⟩
  · rw [← same, sumText_opened]
  · obtain ⟨first, rest⟩ := List.forall_mem_cons.mp legible
    exact same ▸ legible_opened first rest

theorem isSumOf_empty {code : Text} : IsSumOf (.text [] :: parts) code ↔ IsSumOf parts code := by
  have legible : (Part.text []).Legible := List.not_mem_nil
  constructor
  next =>
    rintro ⟨part, others, same, refines, stays⟩
    exact ⟨part, others, same, fun _ _ _ shows => refines _ _ _ (shows_empty.mpr shows),
      fun rest => stays (List.forall_mem_cons.mpr ⟨legible, rest⟩)⟩
  next =>
    rintro ⟨part, others, same, refines, stays⟩
    exact ⟨part, others, same, fun _ _ _ shows => refines _ _ _ (shows_empty.mp shows),
      fun all => stays (List.forall_mem_cons.mp all).2⟩

theorem IsSumOf.append {code more : Text} (first : IsSumOf parts code) (second : IsSumOf others more) :
    IsSumOf (parts ++ others) (code ++ " + ".toList ++ more) := by
  obtain ⟨part, rest, rfl, refines, stays⟩ := first
  obtain ⟨other, rest', rfl, refines', stays'⟩ := second
  refine ⟨part, rest ++ other :: rest', ?_, refines.append refines', fun legible => ?_⟩
  · rw [← sumText_append (by simp) (by simp), List.cons_append]
  · obtain ⟨here, there⟩ := List.forall_mem_append.mp legible
    exact List.forall_mem_append.mpr ⟨stays here, stays' there⟩

/-- A line that puts out the sum of parts is read as that, and the sum gives what the parts give from the
left to the right. -/
theorem IsSumOf.gives {code : Text} (sum : IsSumOf parts code)
    (legible : ∀ one ∈ parts, one.Legible) :
    ∃ tree, readModule (appending code) = .ok [.expression (appendCall tree)] ∧
      ∀ env store result, Shows env parts store result →
        Comes (fun fuel => eval fuel env tree) store result.value := by
  obtain ⟨part, others, rfl, refines, stays⟩ := sum
  exact ⟨_, readModule_appending (stays legible), fun env store result shows =>
    (refines env store result shows).comes⟩

end Spliced

end Stencil.Script
