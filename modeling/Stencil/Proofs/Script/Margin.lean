import Stencil.Program.Basic
import Stencil.Proofs.Script.Steps
import Stencil.Text.Basic

/-!
Words of lines that stand at levels: every level is four spaces deeper than the one around it.
-/

set_option autoImplicit false

namespace Stencil.Script.Lexer

/-! ### Line breaks -/

theorem unifyBreaks_cons {c : Char} (rest : Text) (plain : c ≠ '\r') :
    unifyBreaks (c :: rest) = c :: unifyBreaks rest := by
  rw [unifyBreaks]
  · rintro more rfl
    exact absurd rfl plain
  · rintro rfl
    exact absurd rfl plain

theorem unifyBreaks_eq {text : Text} (plain : ∀ c ∈ text, c ≠ '\r') : unifyBreaks text = text := by
  induction text with
  | nil => rfl
  | cons c rest ih =>
    rw [unifyBreaks_cons rest (plain c (List.mem_cons_self ..)),
      ih fun d member => plain d (List.mem_cons_of_mem _ member)]

theorem unifyBreaks_return {rest : Text} (lone : ∀ more, rest = '\n' :: more → False) :
    unifyBreaks ('\r' :: rest) = '\n' :: unifyBreaks rest := by
  rw [unifyBreaks]
  exact lone

theorem unifyBreaks_append {c : Char} (left right : Text) (plain : c ≠ '\n') :
    unifyBreaks (left ++ c :: right) = unifyBreaks left ++ unifyBreaks (c :: right) := by
  fun_induction unifyBreaks left with
  | case1 => rfl
  | case2 rest ih => simp [unifyBreaks, ih]
  | case3 rest lone ih =>
    rw [List.cons_append, unifyBreaks_return, ih]
    · rfl
    · rintro more same
      cases rest with
      | nil =>
        simp only [List.nil_append, List.cons.injEq] at same
        exact plain same.1
      | cons d others =>
        simp only [List.cons_append, List.cons.injEq] at same
        exact lone others (by rw [same.1])
  | case4 d rest _ other ih =>
    rw [List.cons_append, unifyBreaks_cons _ fun same => other same, ih]
    rfl

/-! ### Margins -/

/-- Whether a character can begin the content of a line. -/
def beginsContent (c : Char) : Bool :=
  c != ' ' && c != '\t' && c != '\x0c' && c != '\\' && c != '#' && c != '\n'

theorem indentation_spaces {c : Char} (begins : beginsContent c = true) (rest : Text)
    (count width : Nat) :
    indentation ⟨width, width⟩ none (Text.spaces count ++ c :: rest) =
      some ⟨⟨width + count, width + count⟩, c :: rest⟩ := by
  induction count generalizing width with
  | zero =>
    simp only [beginsContent, Bool.and_eq_true, bne_iff_ne, ne_eq] at begins
    simp only [Text.spaces, List.replicate_zero, List.nil_append, Nat.add_zero]
    unfold indentation
    split <;> simp_all
  | succ count ih =>
    rw [Text.spaces, List.replicate_succ, List.cons_append, indentation]
    exact (ih (width + 1)).trans (by simp [Nat.add_assoc, Nat.add_comm 1])

theorem words_lineStart {c : Char} (begins : beginsContent c = true) (rest : Text)
    (indents : List Width) (count : Nat) :
    words ⟨indents, []⟩ .lineStart (Text.spaces count ++ c :: rest) = (do
      let (found, state) ← adjust ⟨indents, []⟩ ⟨count, count⟩
      let others ← words state (.inLine false) (c :: rest)
      return found ++ others) := by
  have start := indentation_spaces begins rest count 0
  simp only [Nat.zero_add] at start
  simp only [beginsContent, Bool.and_eq_true, bne_iff_ne, ne_eq] at begins
  rw [words_eq]
  simp [advance, Width.zero, start, begins]

theorem words_nil (indents : List Width) (blank : Bool) :
    words ⟨indents, []⟩ (.inLine blank) [] = some [] := by
  simp [words_eq, advance]

/-- The indentations that are open at a level, the innermost first. -/
def widths : Nat → List Width
  | 0 => []
  | level + 1 => ⟨4 * (level + 1), 4 * (level + 1)⟩ :: widths level

theorem length_widths (level : Nat) : (widths level).length = level := by
  induction level with
  | zero => rfl
  | succ level ih => rw [widths, List.length_cons, ih]

theorem headD_widths (level : Nat) : (widths level).headD .zero = ⟨4 * level, 4 * level⟩ := by
  cases level <;> rfl

/-- Text that begins where its indentation ends. -/
def Solid (text : Text) : Prop :=
  (text.head?.any fun c => !Text.isBlank c && c != '\\' && c != '#') = true

instance (text : Text) : Decidable (Solid text) := inferInstanceAs (Decidable (_ = true))

theorem Solid.first {text : Text} (solid : Solid text) :
    ∃ c rest, text = c :: rest ∧ Text.isBlank c = false ∧ c ≠ '\\' ∧ c ≠ '#' := by
  cases text with
  | nil => cases solid
  | cons c rest => exact ⟨c, rest, rfl, by simpa [Solid, and_assoc] using solid⟩

theorem Solid.append {text : Text} (solid : Solid text) (more : Text) : Solid (text ++ more) := by
  obtain ⟨c, rest, rfl, -⟩ := solid.first
  exact solid

theorem Solid.not_allBlank {text : Text} (solid : Solid text) : Text.allBlank text = false := by
  obtain ⟨c, rest, rfl, visible, -, -⟩ := solid.first
  simp [Text.allBlank, visible]

theorem Solid.begins {text : Text} (solid : Solid text) :
    ∃ c rest, text = c :: rest ∧ beginsContent c = true := by
  obtain ⟨c, rest, rfl, visible, slash, hash⟩ := solid.first
  have apart {d : Char} (blank : Text.isBlank d = true) : c ≠ d := by
    rintro rfl
    rw [visible] at blank
    cases blank
  refine ⟨c, rest, rfl, ?_⟩
  simp [beginsContent, slash, hash, apart (d := ' ') rfl, apart (d := '\t') rfl,
    apart (d := '\x0c') rfl, apart (d := '\n') rfl]

variable {text rest : Text} {level high : Nat}

theorem words_solid {indents : List Width} {count : Nat} {change : List Token} {state : State}
    (solid : Solid text) (adjusted : adjust ⟨indents, []⟩ ⟨count, count⟩ = some (change, state)) :
    words ⟨indents, []⟩ .lineStart (Text.spaces count ++ text) =
      (words state (.inLine false) text).map (change ++ ·) := by
  obtain ⟨c, rest, rfl, begins⟩ := solid.begins
  rw [words_lineStart begins, adjusted]
  simp only [Option.bind_eq_bind, Option.bind_some]
  cases words state (.inLine false) (c :: rest) <;> rfl

theorem dedent_widths (order : level ≤ high) :
    dedent ⟨4 * level, 4 * level⟩ (widths high) = (high - level, widths level) := by
  induction high with
  | zero =>
    cases Nat.le_zero.mp order
    rfl
  | succ high ih =>
    rw [widths, dedent]
    by_cases same : level = high + 1
    next =>
      subst same
      simp [widths]
    next =>
      have less : level ≤ high := by omega
      have wider : 4 * level < 4 * (high + 1) := by omega
      have count : high + 1 - level = high - level + 1 := by omega
      simp only [if_pos wider, ih less, count]

/-- A line at a level that is open closes those that are deeper. -/
theorem words_margin (solid : Solid text) (order : level ≤ high) :
    words ⟨widths high, []⟩ .lineStart (Text.spaces (4 * level) ++ text) =
      (words ⟨widths level, []⟩ (.inLine false) text).map
        (List.replicate (high - level) .dedent ++ ·) := by
  have width : State.width ⟨widths high, []⟩ = ⟨4 * high, 4 * high⟩ := headD_widths high
  have adjusted : adjust ⟨widths high, []⟩ ⟨4 * level, 4 * level⟩ =
      some (List.replicate (high - level) .dedent, ⟨widths level, []⟩) := by
    by_cases same : level = high
    next =>
      subst same
      simp [adjust, width]
    next =>
      have after : State.width ⟨widths level, []⟩ = ⟨4 * level, 4 * level⟩ := headD_widths level
      have apart : ¬ 4 * level = 4 * high := by omega
      have lower : ¬ 4 * high < 4 * level := by omega
      simp only [adjust, width, if_neg apart, if_neg lower, dedent_widths order, after, if_true]
  exact words_solid solid adjusted

/-- The first line of a block. -/
theorem words_deeper (solid : Solid text) (room : level < maximalIndents) :
    words ⟨widths level, []⟩ .lineStart (Text.spaces (4 * (level + 1)) ++ text) =
      (words ⟨widths (level + 1), []⟩ (.inLine false) text).map (.indent :: ·) := by
  have width : State.width ⟨widths level, []⟩ = ⟨4 * level, 4 * level⟩ := headD_widths level
  have adjusted : adjust ⟨widths level, []⟩ ⟨4 * (level + 1), 4 * (level + 1)⟩ =
      some ([.indent], ⟨widths (level + 1), []⟩) := by
    have apart : ¬ 4 * (level + 1) = 4 * level := by omega
    have higher : 4 * level < 4 * (level + 1) := by omega
    have fits : ¬ (4 * (level + 1) ≤ 4 * level ∨ maximalIndents < (widths level).length + 1) := by
      rw [length_widths]
      omega
    simp only [adjust, width, if_neg apart, if_pos higher, if_neg fits]
    rfl
  exact words_solid solid adjusted

/-- Text behind which no indentation above a level stays open. -/
def Falls (level : Nat) (rest : Text) : Prop :=
  ∀ high, level ≤ high →
    words ⟨widths high, []⟩ .lineStart rest =
      (words ⟨widths level, []⟩ .lineStart rest).map (List.replicate (high - level) .dedent ++ ·)

theorem falls_line (solid : Solid text) (order : level ≤ high) :
    Falls high (Text.spaces (4 * level) ++ text) := by
  intro higher above
  rw [words_margin solid order, words_margin solid (Nat.le_trans order above), Option.map_map]
  have count : higher - level = higher - high + (high - level) := by omega
  simp only [count, Function.comp_def, ← List.append_assoc, List.replicate_append_replicate]

end Stencil.Script.Lexer
