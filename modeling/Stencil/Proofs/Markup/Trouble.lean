import Stencil.Proofs.Markup.Row

/-!
What can be wrong with the lines of a source that lexes.
-/

set_option autoImplicit false

namespace Stencil.Markup

/-- Whether deeper lines follow. -/
def Row.opens (row : Row) : List Row → Bool
  | [] => false
  | next :: _ => row.depth < next.depth

/-- The statement whose names a line of silent code binds. -/
def Row.statement? (row : Row) (deeper : Bool) : Option Text :=
  row.silent?.map fun code => if deeper then Builder.headerOf code else code

theorem readable_statement {row : Row} (readable : Readable row.text) {deeper : Bool} {code : Text}
    (silent : row.statement? deeper = some code) : Readable code := by
  obtain ⟨inner, same, rfl⟩ := Option.map_eq_some_iff.mp silent
  have plain := readable_silent readable same
  cases deeper with
  | false => exact plain
  | true => exact readable_headerOf plain

def depthFault? (code : Text) : Option CompileError :=
  match Script.assignedNames code with
  | .error .tooDeep => some .deepCode
  | _ => none

/-- What is wrong with a line that lexes. -/
def Row.trouble? (row : Row) (first deeper : Bool) : Option CompileError :=
  if row.isDocType && !(first && row.depth == 0) then some (.unexpectedToken row.docTypeSign)
  else (row.statement? deeper).bind depthFault?

def firstTrouble? (first : Bool) : List Row → Option CompileError
  | [] => none
  | row :: rest => (row.trouble? first (row.opens rest)).or (firstTrouble? false rest)

def troubleAt? (first : Bool) (rows : List Row) (place : Nat) : Option CompileError :=
  rows[place]?.bind fun row =>
    row.trouble? (first && place == 0) (row.opens (rows.drop (place + 1)))

theorem troubleAt?_succ (first : Bool) (row : Row) (rest : List Row) (place : Nat) :
    troubleAt? first (row :: rest) (place + 1) = troubleAt? false rest place := by
  simp [troubleAt?]

theorem firstTrouble?_eq_none {first : Bool} {rows : List Row} :
    firstTrouble? first rows = none ↔ ∀ place, troubleAt? first rows place = none := by
  induction rows generalizing first with
  | nil => simp [firstTrouble?, troubleAt?]
  | cons row rest ih =>
    rw [firstTrouble?, Option.or_eq_none_iff, ih]
    constructor
    · rintro ⟨here, later⟩ place
      cases place with
      | zero => simpa [troubleAt?] using here
      | succ place => exact troubleAt?_succ .. ▸ later place
    · exact fun all => ⟨by simpa [troubleAt?] using all 0,
        fun place => troubleAt?_succ .. ▸ all (place + 1)⟩

theorem firstTrouble?_eq_some {first : Bool} {rows : List Row} {fault : CompileError} :
    firstTrouble? first rows = some fault ↔
      ∃ place, troubleAt? first rows place = some fault ∧
        ∀ earlier, earlier < place → troubleAt? first rows earlier = none := by
  induction rows generalizing first with
  | nil => simp [firstTrouble?, troubleAt?]
  | cons row rest ih =>
    have here : troubleAt? first (row :: rest) 0 = row.trouble? first (row.opens rest) := by
      simp [troubleAt?]
    rw [firstTrouble?, Option.or_eq_some_iff, ih]
    constructor
    · rintro (now | ⟨quiet, place, found, before⟩)
      · exact ⟨0, here.trans now, fun earlier bound => absurd bound (Nat.not_lt_zero _)⟩
      · refine ⟨place + 1, (troubleAt?_succ ..).trans found, fun earlier bound => ?_⟩
        cases earlier with
        | zero => exact here.trans quiet
        | succ earlier =>
          exact (troubleAt?_succ ..).trans (before earlier (Nat.lt_of_succ_lt_succ bound))
    · rintro ⟨place, found, before⟩
      cases place with
      | zero => exact .inl (here.symm.trans found)
      | succ place =>
        refine .inr ⟨here.symm.trans (before 0 (Nat.succ_pos _)), place,
          (troubleAt?_succ ..).symm.trans found, fun earlier bound => ?_⟩
        exact (troubleAt?_succ ..).symm.trans (before (earlier + 1) (Nat.succ_lt_succ bound))

/-- Whether a line is a document type that is indented or not the first line. -/
def Misplaced (rows : List Row) (place : Nat) : Prop :=
  ∃ row, rows[place]? = some row ∧ row.isDocType = true ∧ (place = 0 → row.depth ≠ 0)

/-- Whether a line is silent code with more levels than are looked into. -/
def TooDeep (rows : List Row) (place : Nat) : Prop :=
  ∃ row code, rows[place]? = some row ∧
    row.statement? (row.opens (rows.drop (place + 1))) = some code ∧
    Script.assignedNames code = .error .tooDeep

theorem depthFault?_eq_some {code : Text} {fault : CompileError} :
    depthFault? code = some fault ↔
      Script.assignedNames code = .error .tooDeep ∧ fault = .deepCode := by
  rw [depthFault?]
  split
  next deep => simp [deep, eq_comm]
  next other =>
    constructor
    · exact fun none => nomatch none
    · exact fun both => absurd both.1 other

theorem statement?_docType {row : Row} (starts : row.isDocType = true) (deeper : Bool) :
    row.statement? deeper = none := by
  obtain ⟨rest, shape⟩ := List.isPrefixOf_iff_prefix.mp starts
  simp [Row.statement?, Row.silent?, ← shape]

theorem troubleAt?_eq_some {rows : List Row} {place : Nat} {fault : CompileError} :
    troubleAt? true rows place = some fault ↔
      (∃ row, rows[place]? = some row ∧ Misplaced rows place ∧
        fault = .unexpectedToken row.docTypeSign) ∨ TooDeep rows place ∧ fault = .deepCode := by
  cases found : rows[place]? with
  | none => simp [troubleAt?, found, Misplaced, TooDeep]
  | some row =>
    have depth : (!(true && place == 0 && row.depth == 0)) = true ↔
        (place = 0 → row.depth ≠ 0) := by
      cases place <;> simp
    simp only [troubleAt?, found, Option.bind_some, Misplaced, TooDeep, Row.trouble?,
      Option.some.injEq, exists_and_left, exists_eq_left', Bool.and_eq_true, depth]
    by_cases wrong : row.isDocType = true ∧ (place = 0 → row.depth ≠ 0)
    next => simp [wrong, statement?_docType wrong.1, eq_comm]
    next =>
      simp only [wrong, if_false, false_and, false_or, Option.bind_eq_some_iff,
        depthFault?_eq_some]
      exact ⟨fun ⟨code, silent, deep, same⟩ => ⟨⟨code, silent, deep⟩, same⟩,
        fun ⟨⟨code, silent, deep⟩, same⟩ => ⟨code, silent, deep, same⟩⟩

theorem troubleAt?_eq_none {rows : List Row} {place : Nat} :
    troubleAt? true rows place = none ↔ ¬Misplaced rows place ∧ ¬TooDeep rows place := by
  constructor
  · refine fun quiet => ⟨fun wrong => ?_, fun deep => ?_⟩
    · obtain ⟨row, found, _⟩ := id wrong
      have trouble := troubleAt?_eq_some.mpr (.inl ⟨row, found, wrong, rfl⟩)
      exact nomatch quiet.symm.trans trouble
    · exact nomatch quiet.symm.trans (troubleAt?_eq_some.mpr (.inr ⟨deep, rfl⟩))
  · rintro ⟨right, shallow⟩
    refine Option.eq_none_iff_forall_ne_some.mpr fun fault trouble => ?_
    rcases troubleAt?_eq_some.mp trouble with ⟨_, _, wrong, _⟩ | ⟨deep, _⟩
    · exact right wrong
    · exact shallow deep

/-- A document type at the margin of the first line is no trouble. -/
theorem trouble?_docType {row : Row} {deeper : Bool} (flush : row.depth = 0)
    (starts : row.isDocType = true) : row.trouble? true deeper = none := by
  obtain ⟨rest, shape⟩ := List.isPrefixOf_iff_prefix.mp starts
  have quiet : row.silent? = none := by simp [Row.silent?, ← shape]
  simp [Row.trouble?, flush, Row.statement?, quiet]

/-- Whether the first line asks, at the margin, for a document type that is not known. -/
def Refused (rows : List Row) (name : Text) : Prop :=
  ∃ row, rows.head? = some row ∧ row.depth = 0 ∧ row.isDocType = true ∧
    row.docTypeName? = some name ∧ DocType.declaration? (some name) = none

theorem Refused.unique {rows : List Row} {one other : Text} (first : Refused rows one)
    (second : Refused rows other) : one = other := by
  obtain ⟨row, found, _, _, named, _⟩ := first
  obtain ⟨again, same, _, _, also, _⟩ := second
  cases found.symm.trans same
  exact Option.some.inj (named.symm.trans also)

/-- Whether nothing is wrong with the lines before a place. -/
def Sound (rows : List Row) (place : Nat) : Prop :=
  ∀ earlier, earlier < place → ¬Misplaced rows earlier ∧ ¬TooDeep rows earlier

/-- A line that is wrong in itself is the first one behind which nothing is sound. -/
theorem Sound.unique {rows : List Row} {one other : Nat} (first : Sound rows one)
    (second : Sound rows other) (wrong : Misplaced rows one ∨ TooDeep rows one)
    (also : Misplaced rows other ∨ TooDeep rows other) : one = other := by
  rcases Nat.lt_trichotomy one other with less | same | more
  · rcases wrong with wrong | deep
    · exact absurd wrong (second one less).1
    · exact absurd deep (second one less).2
  · exact same
  · rcases also with wrong | deep
    · exact absurd wrong (first other more).1
    · exact absurd deep (first other more).2

end Stencil.Markup
