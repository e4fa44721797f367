import Stencil.Text.Basic

/-!
Where the boundaries of a text end, and with them the line that a place in a text is on.
-/

set_option autoImplicit false

namespace Stencil.Text

/-- The places where boundaries end, the text itself beginning at the given place. -/
def breaks (place : Nat) : Text → List Nat
  | [] => []
  | '\r' :: '\n' :: rest => (place + 2) :: breaks (place + 2) rest
  | c :: rest =>
    if isBoundary c then (place + 1) :: breaks (place + 1) rest else breaks (place + 1) rest

def breaksUpTo (text : Text) (place : Nat) : List Nat := (breaks 0 text).filter (· ≤ place)

def lineNumber (text : Text) (place : Nat) : Nat := 1 + (breaksUpTo text place).length

/-- The end of the last boundary before a place; the first line starts at the start. -/
def lineStart (text : Text) (place : Nat) : Nat := (breaksUpTo text place).getLast?.getD 0

example : breaks 0 "a\r\nb\r\x0bc".toList = [3, 5, 6] := by decide

def extent (lines : List Line) : Nat := (lines.map Line.whole).flatten.length

@[simp] theorem extent_nil : extent [] = 0 := rfl

@[simp] theorem extent_cons (line : Line) (rest : List Line) :
    extent (line :: rest) = line.whole.length + extent rest := by simp [extent]

/-! ### Boundaries at the ends of lines -/

def ends (place : Nat) : List Line → List Nat
  | [] => []
  | line :: rest =>
    let next := place + line.whole.length
    if line.ending = [] then ends next rest else next :: ends next rest

theorem ends_extend (place : Nat) (c : Char) (found : List Line) :
    ends place (Line.extend c found) = ends (place + 1) found := by
  cases found with
  | nil => rfl
  | cons line rest =>
    have moved : place + (c :: line.body ++ line.ending).length =
        place + 1 + line.whole.length := by
      simp only [Line.whole, List.cons_append, List.length_cons]
      omega
    simp only [Line.extend, ends, Line.whole, moved]

theorem breaks_eq_ends (place : Nat) (text : Text) : breaks place text = ends place (lines text) := by
  fun_induction lines text generalizing place with
  | case1 => rfl
  | case2 rest ih => simp [breaks, ends, Line.whole, ih]
  | case3 c rest single boundary ih => simp [breaks, ends, Line.whole, boundary, ih]
  | case4 c rest single inside ih =>
    rw [breaks, if_neg inside, ih, ends_extend]
    exact single

/-- Only the last line of a text can be without a boundary. -/
theorem ended_lines (text : Text) : (lines text).Pairwise fun line _ => line.ending ≠ [] := by
  fun_induction lines text with
  | case1 => exact .nil
  | case2 rest ih => exact .cons (by simp) ih
  | case3 c rest single boundary ih => exact .cons (by simp) ih
  | case4 c rest single inside ih =>
    cases found : lines rest with
    | nil => exact List.pairwise_singleton ..
    | cons line more =>
      rw [found] at ih
      obtain ⟨first, others⟩ := List.pairwise_cons.mp ih
      exact .cons first others

theorem boundary_lines (text : Text) :
    ∀ line ∈ lines text, ∀ c ∈ line.ending, isBoundary c = true := by
  fun_induction lines text with
  | case1 => simp
  | case2 rest ih => exact List.forall_mem_cons.mpr ⟨by simp [isBoundary], ih⟩
  | case3 c rest single boundary ih =>
    exact List.forall_mem_cons.mpr ⟨List.forall_mem_singleton.mpr boundary, ih⟩
  | case4 c rest single inside ih =>
    cases found : lines rest with
    | nil => simp [Line.extend]
    | cons line more =>
      rw [found] at ih
      obtain ⟨here, later⟩ := List.forall_mem_cons.mp ih
      exact List.forall_mem_cons.mpr ⟨here, later⟩

theorem le_of_mem_ends {place break_ : Nat} {lines : List Line} (member : break_ ∈ ends place lines) :
    place ≤ break_ := by
  induction lines generalizing place with
  | nil => cases member
  | cons line rest ih =>
    rw [ends] at member
    split at member
    next =>
      have := ih member
      omega
    next =>
      rcases List.mem_cons.mp member with rfl | later
      · omega
      · have := ih later
        omega

theorem length_ends {place : Nat} {lines : List Line} (ended : ∀ line ∈ lines, line.ending ≠ []) :
    (ends place lines).length = lines.length := by
  induction lines generalizing place with
  | nil => rfl
  | cons line rest ih =>
    obtain ⟨here, later⟩ := List.forall_mem_cons.mp ended
    simp [ends, here, ih later]

theorem last_ends {place : Nat} {lines : List Line} (ended : ∀ line ∈ lines, line.ending ≠ []) :
    (ends place lines).getLast?.getD place = place + extent lines := by
  induction lines generalizing place with
  | nil => rfl
  | cons line rest ih =>
    obtain ⟨here, later⟩ := List.forall_mem_cons.mp ended
    simp only [ends, here, if_false, List.getLast?_cons, Option.getD_some, ih later, extent_cons]
    omega

/-! ### The line of a place -/

variable {lines earlier later : List Line} {line : Line} {place column : Nat}

/-- Up to a place that is not behind the body of a line only the lines before it have ended. -/
theorem ends_before (ended : (earlier ++ line :: later).Pairwise fun line _ => line.ending ≠ [])
    (inside : column ≤ line.body.length) :
    (ends place (earlier ++ line :: later)).filter (· ≤ place + extent earlier + column) =
      ends place earlier := by
  induction earlier generalizing place with
  | nil =>
    rw [List.nil_append, extent_nil, Nat.add_zero]
    simp only [ends]
    by_cases last : line.ending = []
    next =>
      -- nothing comes after a line without a boundary
      have alone : later = [] := by
        cases later with
        | nil => rfl
        | cons next rest => exact absurd last ((List.pairwise_cons.mp ended).1 next (by simp))
      simp [last, alone, ends]
    next =>
      have longer : column < line.whole.length := by
        have := List.length_pos_iff.mpr last
        simp only [Line.whole, List.length_append]
        omega
      rw [if_neg last, List.filter_eq_nil_iff]
      intro found member
      have beyond : place + line.whole.length ≤ found := by
        rcases List.mem_cons.mp member with rfl | behind
        · exact Nat.le_refl _
        · exact le_of_mem_ends behind
      simp only [decide_eq_true_eq, Nat.not_le]
      omega
  | cons first earlier ih =>
    obtain ⟨one, others⟩ := List.pairwise_cons.mp ended
    have here : first.ending ≠ [] := one line (by simp)
    have moved : place + extent (first :: earlier) + column =
        place + first.whole.length + extent earlier + column := by
      rw [extent_cons]
      omega
    have passed : decide (place + first.whole.length ≤
        place + first.whole.length + extent earlier + column) = true := by
      simp only [decide_eq_true_eq]
      omega
    rw [List.cons_append, ends, ends, if_neg here, if_neg here, moved, List.filter_cons, passed,
      if_pos rfl, ih others]

theorem ended_earlier {text : Text} (cut : Text.lines text = earlier ++ line :: later) :
    ∀ one ∈ earlier, one.ending ≠ [] := by
  have ended := ended_lines text
  rw [cut] at ended
  intro one member
  exact (List.pairwise_append.mp ended).2.2 one member line (by simp)

theorem breaksUpTo_eq {text : Text} (cut : Text.lines text = earlier ++ line :: later)
    (inside : column ≤ line.body.length) :
    breaksUpTo text (extent earlier + column) = ends 0 earlier := by
  have ended := ended_lines text
  rw [cut] at ended
  have before : (ends 0 (earlier ++ line :: later)).filter (· ≤ 0 + extent earlier + column) =
      ends 0 earlier := ends_before ended inside
  rwa [Nat.zero_add, ← cut, ← breaks_eq_ends] at before

theorem lineNumber_eq {text : Text} (cut : Text.lines text = earlier ++ line :: later)
    (inside : column ≤ line.body.length) :
    lineNumber text (extent earlier + column) = 1 + earlier.length := by
  rw [lineNumber, breaksUpTo_eq cut inside, length_ends (ended_earlier cut)]

theorem lineStart_eq {text : Text} (cut : Text.lines text = earlier ++ line :: later)
    (inside : column ≤ line.body.length) :
    lineStart text (extent earlier + column) = extent earlier := by
  rw [lineStart, breaksUpTo_eq cut inside, last_ends (ended_earlier cut), Nat.zero_add]

end Stencil.Text
