import Stencil.Proofs.Turn.Recast
import Stencil.Proofs.Layout.Source
import Stencil.Text.Basic

/-!
Reading a file turns the endings of lines into line feeds. The lines stay the same but for that,
and what the lexer sees of them does not change.
-/

set_option autoImplicit false

namespace Stencil.Text

def Line.unified (line : Line) : Line := ⟨line.body, unifyEndings line.ending⟩

theorem unifyEndings_cons {c : Char} (plain : c ≠ '\r') (rest : Text) :
    unifyEndings (c :: rest) = c :: unifyEndings rest := by
  rw [unifyEndings]
  all_goals simp [plain]

theorem lines_boundary {c : Char} (boundary : isBoundary c = true) (plain : c ≠ '\r')
    (rest : Text) : lines (c :: rest) = ⟨[], [c]⟩ :: lines rest := by
  rw [lines, if_pos boundary]
  intro others same
  exact absurd same plain

theorem lines_inside {c : Char} (inside : ¬isBoundary c = true) (rest : Text) :
    lines (c :: rest) = Line.extend c (lines rest) := by
  rw [lines, if_neg inside]
  rintro others rfl
  exact absurd (by decide) inside

theorem lines_feed {text : Text} (inside : ∀ c ∈ text, isBoundary c = false) (rest : Text) :
    lines (text ++ '\n' :: rest) = ⟨text, ['\n']⟩ :: lines rest := by
  induction text with
  | nil => exact lines_boundary (by decide) (by decide) rest
  | cons c text ih =>
    have first := inside c (List.mem_cons_self ..)
    rw [List.cons_append, lines_inside (by simp [first]),
      ih fun d member => inside d (List.mem_cons_of_mem _ member)]
    rfl

theorem extend_unified (c : Char) (found : List Line) :
    (Line.extend c found).map Line.unified = Line.extend c (found.map Line.unified) := by
  cases found <;> rfl

/-- The boundaries of a text are where they were. -/
theorem lines_unifyEndings (text : Text) :
    lines (unifyEndings text) = (lines text).map Line.unified := by
  fun_induction lines text with
  | case1 => rfl
  | case2 rest ih =>
    rw [unifyEndings, lines_boundary (by decide) (by decide), ih]
    rfl
  | case3 c rest single boundary ih =>
    by_cases feed : c = '\r'
    next =>
      subst feed
      rw [unifyEndings, lines_boundary (by decide) (by decide), ih]
      · rfl
      · intro others same
        exact single others rfl same
    next =>
      rw [unifyEndings_cons feed, lines_boundary boundary feed, ih, List.map_cons, Line.unified,
        unifyEndings_cons feed, unifyEndings]
  | case4 c rest single inside ih =>
    have plain : c ≠ '\r' := by
      rintro rfl
      exact absurd (by decide) inside
    rw [unifyEndings_cons plain, lines_inside inside, ih, extend_unified]

/-! ### Contents -/

theorem unifyEndings_of_unbroken {text : Text} (unbroken : Unbroken text) :
    unifyEndings text = text := by
  induction text with
  | nil => rfl
  | cons c rest ih =>
    obtain ⟨plain, later⟩ := unbroken_cons.mp unbroken
    rw [unifyEndings_cons plain.2, ih later]

/-- A line that ended in line feeds and carriage returns alone ends in line feeds. -/
theorem all_unifyEndings {text : Text}
    (feeds : text.all (fun c => c == '\n' || c == '\r') = true) :
    (unifyEndings text).all (fun c => c == '\n' || c == '\r') = true := by
  fun_induction unifyEndings text with
  | case1 => rfl
  | case2 rest ih => simp_all
  | case3 rest single ih => simp_all
  | case4 c rest pair single ih => simp_all

theorem content_unified {line : Line} (cut : line.Cut) :
    Lexer.content line.unified = Lexer.content line := by
  rcases cut.2 with feeds | unbroken
  · have unified := all_unifyEndings feeds
    rw [Lexer.content, Lexer.content, Line.unified, if_pos feeds, if_pos unified]
  · rw [Line.unified, unifyEndings_of_unbroken unbroken]

end Stencil.Text

namespace Stencil.Lexer

/-- The offset of a line is in its tokens' offsets only. -/
theorem place_unplaced (number offset other : Nat) (first : Bool) (text : Text) :
    (place number offset first text).map (List.map Token.unplaced) =
      (place number other first text).map (List.map Token.unplaced) := by
  unfold place
  split
  next found _ =>
    simp only [Except.map, List.map_map]
    rfl
  next => rfl

theorem append_unplaced (first others : Except CompileError (List Token)) :
    Except.map (List.map Token.unplaced) (do return (← first) ++ (← others)) =
      (do return (← first.map (List.map Token.unplaced)) ++
        (← others.map (List.map Token.unplaced))) := by
  cases first with
  | error error => rfl
  | ok tokens =>
    cases others with
    | error error => rfl
    | ok more => exact congrArg Except.ok List.map_append

theorem lexLines_unified {lines : List Text.Line} (cut : ∀ line ∈ lines, line.Cut)
    (number offset other : Nat) (first : Bool) :
    (lexLines number offset first (lines.map Text.Line.unified)).map (List.map Token.unplaced) =
      (lexLines number other first lines).map (List.map Token.unplaced) := by
  induction lines generalizing number offset other first with
  | nil => rfl
  | cons line rest ih =>
    obtain ⟨here, later⟩ := List.forall_mem_cons.mp cut
    rw [List.map_cons, lexLines, lexLines, Text.content_unified here]
    split
    next => exact ih later ..
    next =>
      rw [append_unplaced, append_unplaced, place_unplaced number offset other first,
        ih later _ _ (other + line.whole.length)]

/-- A text that was read from a file has the tokens that it has as it is, but for the offsets. -/
theorem lex_unifyEndings (source : Text) :
    (lex (Text.unifyEndings source)).map (List.map Token.unplaced) =
      (lex source).map (List.map Token.unplaced) := by
  rw [lex, lex, Text.lines_unifyEndings]
  exact lexLines_unified (Text.cut_lines source) 1 0 0 true

end Stencil.Lexer
