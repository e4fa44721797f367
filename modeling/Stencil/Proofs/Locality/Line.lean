import Mathlib.Data.List.TakeWhile
import Stencil.Proofs.Locality.Word
import Stencil.Proofs.Script.Margin

/-!
The words of a line settle its brackets before anything else comes, and an expression on one line
has the same words wherever it stands in brackets.
-/

set_option autoImplicit false

namespace Stencil.Script.Lexer

open Reader

variable {state : State} {place : Place} {text : Text} {found : List Token}

/-- Words from the inside of a line on: they close what is open, and then the line ends. -/
theorem words_settle (read : words state place text = some found)
    (within : place = .inLine false ∨ state.closers ≠ []) :
    ∃ inside rest, found = inside ++ rest ∧ Settles state.closers inside ∧ Border rest ∧
      weight inside ≤ text.length ∧ ('\n' ∉ text → rest = []) := by
  induction size : enough place text using Nat.strongRecOn generalizing state place text found with
  | ind size ih =>
    subst size
    rw [words_eq] at read
    cases place with
    | lineStart =>
      have open_ : state.closers ≠ [] := within.resolve_left (by simp)
      obtain ⟨start, begun, read⟩ := Option.bind_eq_some_iff.mp read
      have bound := length_indentation begun
      rw [if_pos (by simp [open_])] at read
      obtain ⟨inside, rest, split, settles, border, light, single⟩ :=
        ih _ (by simp only [enough]; omega) read (.inr open_) rfl
      exact ⟨inside, rest, split, settles, border, Nat.le_trans light bound,
        fun feedless => single fun member => feedless ((suffix_indentation begun).subset member)⟩
    | inLine blank =>
      have shorter {state : State} {place : Place} {more : Text} {found : List Token}
          (less : enough place more < enough (.inLine blank) text)
          (read : words state place more = some found)
          (within : place = .inLine false ∨ state.closers ≠ []) (part : more <:+ text) :
          ∃ inside rest, found = inside ++ rest ∧ Settles state.closers inside ∧ Border rest ∧
            weight inside ≤ text.length ∧ ('\n' ∉ text → rest = []) := by
        obtain ⟨inside, rest, split, settles, border, light, single⟩ := ih _ less read within rfl
        exact ⟨inside, rest, split, settles, border, Nat.le_trans light part.length_le,
          fun feedless => single fun member => feedless (part.subset member)⟩
      simp only [advance] at read
      split at read
      next =>
        split at read
        next closed =>
          cases read
          exact ⟨[], [], rfl, settles_nil.mpr (List.isEmpty_iff.mp closed), border_nil,
            Nat.zero_le _, fun _ => rfl⟩
        next => cases read
      next rest =>
        split at read
        next inert =>
          have open_ : state.closers ≠ [] := by
            rcases within with same | open_
            · cases same
              simpa using inert
            · exact open_
          exact shorter (by simp only [enough, List.length_cons]; omega) read (.inr open_)
            (List.suffix_cons ..)
        next alive =>
          obtain ⟨others, -, rfl⟩ := Option.map_eq_some_iff.mp read
          have closed : state.closers = [] := by
            simp only [Bool.or_eq_true, Bool.not_eq_true', List.isEmpty_eq_false_iff, not_or,
              Decidable.not_not] at alive
            exact alive.2
          exact ⟨[], .newline :: others, rfl, settles_nil.mpr closed, border_cons.mpr rfl,
            Nat.zero_le _, fun feedless => absurd (List.mem_cons_self ..) feedless⟩
      next rest =>
        split at read
        next after =>
          split at read
          next => cases read
          next =>
            exact shorter (by simp only [enough, List.length_cons]; omega) read within
              ((List.suffix_cons ..).trans (List.suffix_cons ..))
        next => cases read
      next rest =>
        have bound := (List.dropWhile_suffix (l := rest) (· != '\n')).length_le
        exact shorter (by simp only [enough, List.length_cons]; omega) read within
          ((List.dropWhile_suffix _).trans (List.suffix_cons ..))
      next c rest _ _ _ =>
        split at read
        next => exact shorter (by simp [enough]) read within (List.suffix_cons ..)
        next =>
          obtain ⟨⟨token, length, closers⟩, one, read⟩ := Option.bind_eq_some_iff.mp read
          obtain ⟨others, more, read⟩ := Option.bind_eq_some_iff.mp read
          cases read
          obtain ⟨follows, light, bound⟩ := next?_follow one
          obtain ⟨inside, last, rfl, settles, border, lighter, single⟩ :=
            ih _ (by simp only [enough, List.length_cons, List.length_drop]; omega) more (.inl rfl) rfl
          refine ⟨token :: inside, last, rfl, settles_cons.mpr ⟨closers, follows, settles⟩, border, ?_,
            fun feedless => single fun member =>
              feedless (List.mem_cons_of_mem _ (List.mem_of_mem_drop member))⟩
          rw [weight_cons, List.length_cons]
          rw [List.length_cons] at bound
          rw [List.length_drop] at lighter
          dsimp only at lighter
          omega

theorem length_unifyBreaks (text : Text) : (unifyBreaks text).length ≤ text.length := by
  fun_induction unifyBreaks text with
  | case1 => exact Nat.le_refl _
  | case2 rest ih => exact Nat.succ_le_succ (Nat.le_succ_of_le ih)
  | case3 rest _ ih => exact Nat.succ_le_succ ih
  | case4 c rest _ _ ih => exact Nat.succ_le_succ ih

theorem length_closeLine (text : Text) : (closeLine text).length ≤ text.length + 1 := by
  unfold closeLine
  split
  next => exact Nat.le_succ _
  next => simp

/-- What begins with a parenthesis is settled before anything else comes. -/
theorem statementTokens_settle {text : Text} {found : List Token}
    (read : statementTokens ('(' :: text) = some found) :
    ∃ inside rest, found = inside ++ rest ∧ Settles [] inside ∧ Border rest ∧
      weight inside ≤ text.length + 2 := by
  have first : unifyBreaks ('(' :: text) = '(' :: unifyBreaks text :=
    unifyBreaks_cons text (by decide)
  have closed : ∃ more, closeLine ('(' :: unifyBreaks text) = '(' :: more := by
    unfold closeLine
    split
    next => exact ⟨_, rfl⟩
    next => exact ⟨_, rfl⟩
  obtain ⟨more, same⟩ := closed
  have bound := length_closeLine ('(' :: unifyBreaks text)
  have shorter := length_unifyBreaks text
  have begins : words ⟨[], []⟩ .lineStart ('(' :: more) =
      (words ⟨[], []⟩ (.inLine false) ('(' :: more)).map ([] ++ ·) := words_steps 1 rfl
  rw [statementTokens, first, same, scanAll_eq, begins] at read
  obtain ⟨words, inLine, rfl⟩ := Option.map_eq_some_iff.mp read
  obtain ⟨inside, rest, split, settles, border, light, -⟩ := words_settle inLine (.inl rfl)
  rw [same] at bound
  simp only [List.length_cons] at bound light
  exact ⟨inside, rest, split, settles, border, by omega⟩

/-! ### Within brackets -/

variable {indents : List Width} {closers : List Symbol} {blank : Bool}

/-- Within brackets it does not count whether a line is blank so far. -/
theorem words_blank (open_ : closers ≠ []) (blank blank' : Bool) (text : Text) :
    words ⟨indents, closers⟩ (.inLine blank) text =
      words ⟨indents, closers⟩ (.inLine blank') text := by
  induction size : text.length using Nat.strongRecOn generalizing text with
  | ind size ih =>
    subst size
    rw [words_eq, words_eq]
    simp only [advance]
    split
    next => rfl
    next rest => simp [open_]
    next rest =>
      split
      next after => rw [ih _ (by simp only [List.length_cons]; omega) after rfl]
      next => rfl
    next rest =>
      have bound := (List.dropWhile_suffix (l := rest) (· != '\n')).length_le
      rw [ih _ (by rw [List.length_cons]; omega) _ rfl]
    next c rest _ _ _ => rw [ih _ (by simp) rest rfl]

theorem words_gap {c : Char} (gap : isGap c = true) (state : State) (rest : Text) :
    words state (.inLine blank) (c :: rest) = words state (.inLine blank) rest := by
  rw [words_inLine, if_pos gap]
  all_goals
    rintro rfl
    cases gap

/-- What an indentation may consist of is skipped within a line too. -/
theorem words_indentation {state : State} {width : Width} {fixed : Option Width} {start : LineStart}
    (begun : indentation width fixed text = some start) (tail : Text) :
    words state (.inLine blank) (text ++ tail) = words state (.inLine blank) (start.rest ++ tail) := by
  fun_induction indentation width fixed text with
  | case1 width fixed rest ih => rw [List.cons_append, words_gap rfl, ih begun]
  | case2 width fixed rest ih => rw [List.cons_append, words_gap rfl, ih begun]
  | case3 width fixed rest ih => rw [List.cons_append, words_gap rfl, ih begun]
  | case4 => cases begun
  | case5 width fixed rest present _ ih =>
    have more : (rest ++ tail).isEmpty = false := by
      cases rest with
      | nil => exact absurd rfl present
      | cons => rfl
    rw [List.cons_append, List.cons_append, words_eq]
    simp only [advance, more, Bool.false_eq_true, if_false]
    exact ih begun
  | case6 => cases begun
  | case7 =>
    cases begun
    rfl

theorem words_indentation_none {state : State} {width : Width} {fixed : Option Width}
    (failed : indentation width fixed text = none) : words state (.inLine blank) text = none := by
  fun_induction indentation width fixed text with
  | case1 width fixed rest ih => rw [words_gap rfl, ih failed]
  | case2 width fixed rest ih => rw [words_gap rfl, ih failed]
  | case3 width fixed rest ih => rw [words_gap rfl, ih failed]
  | case4 width fixed rest empty =>
    rw [words_eq]
    simp [advance, empty]
  | case5 width fixed rest present _ ih =>
    rw [words_eq]
    simp only [advance, if_neg present]
    exact ih failed
  | case6 width fixed rest broken =>
    rw [words_eq]
    simp only [advance]
  | case7 => cases failed

/-- Within brackets the start of a line is no other place than any behind it. -/
theorem words_lineStart_open (open_ : closers ≠ []) (text : Text) :
    words ⟨indents, closers⟩ .lineStart text = words ⟨indents, closers⟩ (.inLine false) text := by
  rw [words_eq]
  simp only [advance]
  cases begun : indentation .zero none text with
  | none => exact (words_indentation_none begun).symm
  | some start =>
    have skipped : words ⟨indents, closers⟩ (.inLine false) (text ++ []) =
        words ⟨indents, closers⟩ (.inLine false) (start.rest ++ []) := words_indentation begun []
    rw [List.append_nil, List.append_nil] at skipped
    simp only [Option.bind_eq_bind, Option.bind_some]
    rw [if_pos (by simp [open_]), skipped, words_blank open_]

/-- Words that are no layout of lines. -/
def withoutLayout (found : List Token) : List Token :=
  found.filter fun word => word != .newline && word != .indent && word != .dedent

theorem withoutLayout_append (left right : List Token) :
    withoutLayout (left ++ right) = withoutLayout left ++ withoutLayout right :=
  List.filter_append ..

theorem withoutLayout_settles {words : List Token} (settles : Settles closers words) :
    withoutLayout words = words := by
  refine List.filter_eq_self.mpr fun word member => ?_
  obtain ⟨before, after, rfl⟩ := List.append_of_mem member
  obtain ⟨middle, -, settles⟩ : ∃ middle, before.foldlM Token.follow closers = some middle ∧
      Settles middle (word :: after) := by
    simpa [Settles, List.foldlM_append, Option.bind_eq_some_iff] using settles
  obtain ⟨later, follows, -⟩ := settles_cons.mp settles
  cases word <;> first | rfl | cases follows

theorem adjust_layout {width : Width} {state later : State} {found : List Token}
    (adjusted : adjust state width = some (found, later)) :
    withoutLayout found = [] ∧ later.closers = state.closers := by
  simp only [adjust] at adjusted
  split at adjusted
  next =>
    split at adjusted
    next =>
      cases adjusted
      exact ⟨rfl, rfl⟩
    next => cases adjusted
  next =>
    split at adjusted
    next =>
      split at adjusted
      next => cases adjusted
      next =>
        cases adjusted
        exact ⟨rfl, rfl⟩
    next =>
      split at adjusted
      next =>
        cases adjusted
        exact ⟨by simp [withoutLayout], rfl⟩
      next => cases adjusted

theorem words_end (open_ : closers ≠ []) : words ⟨indents, closers⟩ (.inLine blank) [] = none := by
  rw [words_eq]
  simp [advance, open_]

section Word

variable {c : Char} {token : Token} {length : Nat} {later base : List Symbol} {tail : Text}

/-- Where a text can be read with more brackets around it, there is room for its first word. -/
theorem room_of_words (plain : c ≠ '\n' ∧ c ≠ '\\' ∧ c ≠ '#') (solid : ¬ isGap c = true)
    (stops : Stops tail) (one : next? closers (c :: text) = some (token, length, later))
    {closers' : List Symbol}
    (read : (words ⟨indents, closers'⟩ (.inLine blank) (c :: text ++ tail)).isSome = true) :
    Room closers' token := by
  refine room_of_next? stops (List.cons_ne_nil c text) one ?_
  rw [List.cons_append, words_inLine plain.1 plain.2.1 plain.2.2, if_neg solid] at read
  obtain ⟨all, known⟩ := Option.isSome_iff_exists.mp read
  obtain ⟨next, first, -⟩ := Option.bind_eq_some_iff.mp known
  exact Option.isSome_iff_exists.mpr ⟨next, first⟩

theorem words_word (plain : c ≠ '\n' ∧ c ≠ '\\' ∧ c ≠ '#') (solid : ¬ isGap c = true)
    (stops : Stops tail) (one : next? closers (c :: text) = some (token, length, later))
    (room : Room (closers ++ base) token) :
    words ⟨indents, closers ++ base⟩ (.inLine blank) (c :: text ++ tail) =
      (words ⟨indents, later ++ base⟩ (.inLine false) (text.drop (length - 1) ++ tail)).map
        (token :: ·) := by
  have bound := (next?_follow one).2.2
  have first := next?_append stops (List.cons_ne_nil c text) one room
  have dropped : (text ++ tail).drop (length - 1) = text.drop (length - 1) ++ tail :=
    List.drop_append_of_le_length (by rw [List.length_cons] at bound; omega)
  rw [List.cons_append] at first ⊢
  rw [words_inLine plain.1 plain.2.1 plain.2.2, if_neg solid, first]
  simp only [Option.bind_eq_bind, Option.bind_some, dropped]
  exact Option.map_eq_bind.symm

end Word

/-- Code in brackets that are closed behind it has the words that it has by itself, without the
layout of its lines. That it can be read in brackets at all says that no comment hides what closes
them and that there is room for its own. -/
theorem words_bracketed {indents indents' indents'' : List Width} {closers base : List Symbol}
    {place : Place} {closing : Text} (read : words ⟨indents, closers⟩ place text = some found)
    (open_ : base ≠ []) (single : '
' ∉ closing)
    (room : (words ⟨indents', closers ++ base⟩ (.inLine false) (text ++ ')' :: closing)).isSome = true)
    (rest : Text) :
    words ⟨indents'', closers ++ base⟩ (.inLine false) (text ++ ')' :: rest) =
      (words ⟨indents'', base⟩ (.inLine false) (')' :: rest)).map (withoutLayout found ++ ·) := by
  induction size : enough place text using Nat.strongRecOn generalizing text found closers place indents with
  | ind size ih =>
    subst size
    have around (closers : List Symbol) : closers ++ base ≠ [] := by simp [open_]
    cases place with
    | lineStart =>
      rw [words_eq] at read
      simp only [advance] at read
      obtain ⟨start, begun, read⟩ := Option.bind_eq_some_iff.mp read
      have bound := length_indentation begun
      rw [words_indentation begun] at room ⊢
      split at read
      next => exact ih _ (by simp only [enough]; omega) read room rfl
      next =>
        obtain ⟨⟨layout, later⟩, adjusted, read⟩ := Option.bind_eq_some_iff.mp read
        obtain ⟨others, more, read⟩ := Option.bind_eq_some_iff.mp read
        cases read
        obtain ⟨nothing, same⟩ := adjust_layout adjusted
        obtain ⟨indents, closers⟩ := later
        cases same
        rw [withoutLayout_append, nothing, List.nil_append]
        exact ih _ (by simp only [enough]; omega) more room rfl
    | inLine blank =>
      rw [words_eq] at read
      simp only [advance] at read
      split at read
      next =>
        split at read
        next closed =>
          cases read
          rw [List.isEmpty_iff.mp closed]
          exact (Option.map_id' ..).symm
        next => cases read
      next text =>
        have broken (tail : Text) {indents : List Width} :
            words ⟨indents, closers ++ base⟩ (.inLine false) ('\n' :: text ++ tail) =
              words ⟨indents, closers ++ base⟩ (.inLine false) (text ++ tail) := by
          rw [List.cons_append, words_feed, if_pos (by simp [open_]), words_lineStart_open (around _)]
        rw [broken] at room ⊢
        split at read
        next =>
          refine ih (enough .lineStart text) ?_ read room rfl
          simp only [enough, List.length_cons]
          omega
        next =>
          obtain ⟨others, more, rfl⟩ := Option.map_eq_some_iff.mp read
          change _ = Option.map (withoutLayout others ++ ·) _
          refine ih (enough .lineStart text) ?_ more room rfl
          simp only [enough, List.length_cons]
          omega
      next text =>
        split at read
        next after =>
          split at read
          next => cases read
          next present =>
            have joined (tail : Text) {indents : List Width} :
                words ⟨indents, closers ++ base⟩ (.inLine false) ('\\' :: '\n' :: after ++ ')' :: tail) =
                  words ⟨indents, closers ++ base⟩ (.inLine false) (after ++ ')' :: tail) := by
              rw [List.cons_append, List.cons_append, words_eq]
              simp [advance]
            rw [joined] at room ⊢
            refine ih (enough (.inLine blank) after) ?_ read room rfl
            simp only [enough, List.length_cons]
            omega
        next => cases read
      next text =>
        have hidden (tail : Text) {indents : List Width} :
            words ⟨indents, closers ++ base⟩ (.inLine false) ('#' :: text ++ tail) =
              words ⟨indents, closers ++ base⟩ (.inLine false) ((text ++ tail).dropWhile (· != '\n')) := by
          rw [List.cons_append, words_eq]
          rfl
        rw [hidden, List.dropWhile_append] at room ⊢
        split at room
        next =>
          have quiet : (')' :: closing).dropWhile (· != '\n') = [] :=
            List.dropWhile_eq_nil_iff.mpr fun c member => bne_iff_ne.mpr fun same => by
              rcases List.mem_cons.mp (same ▸ member) with paren | behind
              · cases paren
              · exact single behind
          rw [quiet, words_end (around _)] at room
          cases room
        next ends =>
          rw [if_neg ends]
          have bound := (List.dropWhile_suffix (l := text) (· != '\n')).length_le
          refine ih (enough (.inLine blank) (text.dropWhile (· != '\n'))) ?_ read room rfl
          simp only [enough, List.length_cons]
          omega
      next c text feed slash hash =>
        have plain : c ≠ '\n' ∧ c ≠ '\\' ∧ c ≠ '#' :=
          ⟨fun same => feed (by rw [same]), fun same => slash (by rw [same]),
            fun same => hash (by rw [same])⟩
        split at read
        next gap =>
          rw [List.cons_append, words_gap gap] at room ⊢
          refine ih (enough (.inLine blank) text) ?_ read room rfl
          simp [enough]
        next solid =>
          obtain ⟨⟨token, length, later⟩, one, read⟩ := Option.bind_eq_some_iff.mp read
          obtain ⟨others, more, read⟩ := Option.bind_eq_some_iff.mp read
          cases read
          have fits : Room (closers ++ base) token :=
            room_of_words plain solid (stops_closeParen closing) one room
          rw [words_word plain solid (stops_closeParen closing) one fits, Option.isSome_map] at room
          rw [words_word plain solid (stops_closeParen rest) one fits]
          have kept : withoutLayout (token :: others) = token :: withoutLayout others := by
            refine List.filter_cons_of_pos ?_
            have follows := (next?_follow one).1
            cases token <;> first | rfl | cases follows
          have shorter : enough (.inLine false) (text.drop (length - 1)) <
              enough (.inLine blank) (c :: text) := by
            simp only [enough, List.length_drop, List.length_cons]
            omega
          rw [ih _ shorter more room rfl, kept, Option.map_map]
          rfl

end Stencil.Script.Lexer
