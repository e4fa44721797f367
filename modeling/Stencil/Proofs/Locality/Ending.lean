import Stencil.Proofs.Locality.Line

/-!
The last line of a text. It has the same words with a line feed behind it, and then the line ends.
-/

set_option autoImplicit false

namespace Stencil.Script.Lexer

open Reader

/-! ### The word that comes next -/

section Next

variable {quote : Char}

theorem stringLength?_feed (apart : quote ≠ '\n') (text : Text) :
    stringLength? quote (text ++ ['\n']) = stringLength? quote text := by
  fun_induction stringLength? quote text with
  | case1 => simp [stringLength?, apart.symm]
  | case2 => rfl
  | case3 c rest ih => simp [stringLength?, ih]
  | case4 rest lone pair =>
    rw [List.cons_append, stringLength?_cons (Text.plain_of_alone lone pair), if_pos rfl]
  | case5 rest lone pair other =>
    rw [List.cons_append, stringLength?_cons (Text.plain_of_alone lone pair), if_neg other, if_pos rfl]
  | case6 c rest lone pair other plain ih =>
    rw [List.cons_append, stringLength?_cons (Text.plain_of_alone lone pair), if_neg other,
      if_neg plain, ih]

theorem longStringLength?_feed (known : isQuote quote = true) (text : Text) :
    longStringLength? quote (text ++ ['\n']) = longStringLength? quote text := by
  have prefixed (rest : Text) :
      [quote, quote].isPrefixOf (rest ++ ['\n']) = [quote, quote].isPrefixOf rest :=
    (stops_feed []).isPrefixOf_append (isQuote_apart known) rest
  fun_induction longStringLength? quote text with
  | case1 => simp [longStringLength?]
  | case2 => rfl
  | case3 c rest ih => simp [longStringLength?, ih]
  | case4 c rest lone pair ends =>
    rw [List.cons_append, longStringLength?_cons (Text.plain_of_alone lone pair), prefixed, if_pos ends]
  | case5 c rest lone pair goes ih =>
    rw [List.cons_append, longStringLength?_cons (Text.plain_of_alone lone pair), prefixed,
      if_neg goes, ih]

theorem quotes?_feed {text : Text} (quoted : text.head?.any isQuote = true) :
    quotes? (text ++ ['\n']) = quotes? text := by
  cases found : quotes? text with
  | some pair => exact (quotes?_append_stops (stops_feed []) quoted found).1
  | none =>
    cases text with
    | nil => cases quoted
    | cons quote rest =>
      have known : isQuote quote = true := quoted
      have apart : quote ≠ '\n' := by
        rintro rfl
        cases known
      simp only [quotes?] at found
      simp only [List.cons_append, quotes?, (stops_feed []).isPrefixOf_append (isQuote_apart known)]
      split at found
      next long =>
        have two : 2 ≤ rest.length := (List.isPrefixOf_iff_prefix.mp long).length_le
        have unclosed := Option.map_eq_none_iff.mp found
        rw [if_pos long, List.drop_append_of_le_length two, longStringLength?_feed known, unclosed,
          Option.map_none]
      next short =>
        have unclosed := Option.map_eq_none_iff.mp found
        rw [if_neg short, stringLength?_feed apart, unclosed, Option.map_none]

theorem word?_feed (text : Text) : word? (text ++ ['\n']) = word? text := by
  have prefixed := (List.takeWhile_prefix (l := text) isWordPart).length_le
  have dropped : (text ++ ['\n']).drop (text.takeWhile isWordPart).length =
      text.drop (text.takeWhile isWordPart).length ++ ['\n'] :=
    List.drop_append_of_le_length prefixed
  have next : (text.drop (text.takeWhile isWordPart).length ++ ['\n']).head?.any isQuote =
      (text.drop (text.takeWhile isWordPart).length).head?.any isQuote :=
    (stops_feed []).head?_append_any rfl rfl _
  simp only [word?, takeWhile_stops (stops_feed []), dropped, next]
  by_cases quoted : (text.drop (text.takeWhile isWordPart).length).head?.any isQuote = true
  next => rw [quotes?_feed quoted]
  next => rw [if_neg quoted]

/-- A line feed behind a text changes nothing in the word it begins with. -/
theorem next?_feed (closers : List Symbol) {text : Text} (present : text ≠ []) :
    next? closers (text ++ ['\n']) = next? closers text := by
  simp only [next?, isNumberStart_append (stops_feed []) present, first_append ['\n'] present,
    scanNumber_append (stops_feed []) present, word?_feed, Symbol.scan?_append (stops_feed []) present]
  cases scanNumber text with
  | none => rfl
  | some found =>
    obtain ⟨number, rest⟩ := found
    simp [before]

end Next

/-! ### All words -/

variable {closers : List Symbol} {blank : Bool} {text : Text} {found : List Token}

theorem words_nothing (closers : List Symbol) :
    words ⟨[], closers⟩ .lineStart [] = if closers.isEmpty then some [] else none := by
  have margin : adjust ⟨[], closers⟩ .zero = some ([], ⟨[], closers⟩) := rfl
  have last : words ⟨[], closers⟩ (.inLine false) [] = if closers.isEmpty then some [] else none := by
    rw [words_eq]
    rfl
  rw [words_eq]
  simp only [advance, indentation, Option.bind_eq_bind, Option.bind_some, Option.getD_none,
    List.head?_nil, Option.any_none, Bool.false_or, margin, last]
  cases closers <;> rfl

theorem words_end_feed (read : words ⟨[], closers⟩ (.inLine blank) ['\n'] = some found) :
    words ⟨[], closers⟩ (.inLine blank) [] = some [] ∧ found = if blank then [] else [.newline] := by
  rw [words_feed, words_nothing] at read
  cases closers with
  | cons closer closers =>
    rw [if_pos (by simp)] at read
    cases read
  | nil =>
    refine ⟨by rw [words_eq]; rfl, ?_⟩
    cases blank with
    | true => exact (Option.some.inj read).symm
    | false => exact (Option.some.inj read).symm

theorem dropWhile_line (single : '\n' ∉ text) : text.dropWhile (· != '\n') = [] :=
  List.dropWhile_eq_nil_iff.mpr fun _ member => bne_iff_ne.mpr fun same => single (same ▸ member)

/-- On the last line a comment hides all that follows. -/
theorem words_hash (single : '\n' ∉ text) :
    words ⟨[], closers⟩ (.inLine blank) ('#' :: text) = words ⟨[], closers⟩ (.inLine blank) [] := by
  rw [words_eq]
  simp only [advance, dropWhile_line single]

/-- The words of a line with its end are those of the line, and then the end, unless the line is
blank. -/
theorem words_line (single : '\n' ∉ text)
    (read : words ⟨[], closers⟩ (.inLine blank) (text ++ ['\n']) = some found) :
    ∃ inside, words ⟨[], closers⟩ (.inLine blank) text = some inside ∧
      found = if blank && inside.isEmpty then [] else inside ++ [Token.newline] := by
  induction size : text.length using Nat.strongRecOn generalizing text closers blank found with
  | ind size ih =>
    subst size
    cases text with
    | nil =>
      obtain ⟨ended, feed⟩ := words_end_feed read
      exact ⟨[], ended, by simpa using feed⟩
    | cons c rest =>
      obtain ⟨plain, later⟩ := not_or.mp (List.mem_cons.not.mp single)
      by_cases slash : c = '\\'
      next =>
        -- a backslash joins nothing, as nothing follows the line
        subst slash
        rw [List.cons_append, words_eq] at read
        cases rest with
        | nil => cases read
        | cons d rest =>
          obtain ⟨other, -⟩ := not_or.mp (List.mem_cons.not.mp later)
          simp [advance, Ne.symm other] at read
      by_cases hash : c = '#'
      next =>
        subst hash
        have ended : (rest ++ ['\n']).dropWhile (· != '\n') = ['\n'] := by
          rw [List.dropWhile_append, dropWhile_line later]
          rfl
        rw [List.cons_append, words_eq] at read
        simp only [advance, ended] at read
        obtain ⟨nothing, feed⟩ := words_end_feed read
        exact ⟨[], (words_hash later).trans nothing, by simpa using feed⟩
      have solid : c ≠ '\n' := Ne.symm plain
      rw [List.cons_append, words_inLine solid slash hash] at read
      rw [words_inLine solid slash hash]
      split at read
      next gap =>
        rw [if_pos gap]
        exact ih _ (by simp) later read rfl
      next word =>
        rw [if_neg word]
        rw [← List.cons_append, next?_feed _ (List.cons_ne_nil c rest)] at read
        obtain ⟨⟨token, length, closers⟩, one, read⟩ := Option.bind_eq_some_iff.mp read
        obtain ⟨others, more, read⟩ := Option.bind_eq_some_iff.mp read
        cases read
        have bound := (next?_follow one).2.2
        rw [List.length_cons] at bound
        have dropped : (rest ++ ['\n']).drop (length - 1) = rest.drop (length - 1) ++ ['\n'] :=
          List.drop_append_of_le_length (by omega)
        rw [dropped] at more
        obtain ⟨inside, read, feed⟩ := ih _ (by simp only [List.length_drop, List.length_cons]; omega)
          (fun member => later (List.mem_of_mem_drop member)) more rfl
        exact ⟨token :: inside, by simp [one, read], by simp [feed]⟩

/-! ### Whole texts -/

theorem indentation_feed (single : '\n' ∉ text) (width : Width) (fixed : Option Width) :
    indentation width fixed (text ++ ['\n']) =
      (indentation width fixed text).map fun start => ⟨start.width, start.rest ++ ['\n']⟩ := by
  fun_induction indentation width fixed text with
  | case1 width fixed rest ih => exact ih (not_or.mp (List.mem_cons.not.mp single)).2
  | case2 width fixed rest ih => exact ih (not_or.mp (List.mem_cons.not.mp single)).2
  | case3 width fixed rest ih => exact ih (not_or.mp (List.mem_cons.not.mp single)).2
  | case4 => simp at single
  | case5 => simp at single
  | case6 width fixed rest lone =>
    cases rest with
    | nil => rfl
    | cons c rest =>
      have plain : c ≠ '\n' := fun same => lone rest (by rw [same])
      rw [List.cons_append, List.cons_append, indentation]
      · rfl
      · rintro more same
        exact plain (List.cons.inj same).1
  | case7 width fixed rest space tab form _ slash =>
    cases rest with
    | nil => rfl
    | cons c rest =>
      have apart : c ≠ ' ' ∧ c ≠ '\t' ∧ c ≠ '\x0c' ∧ c ≠ '\\' :=
        ⟨fun same => space rest (by rw [same]), fun same => tab rest (by rw [same]),
          fun same => form rest (by rw [same]), fun same => slash rest (by rw [same])⟩
      rw [List.cons_append, indentation]
      · rfl
      all_goals
        rintro more same
        obtain ⟨rfl, -⟩ := List.cons.inj same
        simp at apart

theorem adjust_margin {width : Width} {layout : List Token} {state : State}
    (adjusted : adjust ⟨[], []⟩ width = some (layout, state)) :
    layout = [] ∧ state = ⟨[], []⟩ ∨ layout = [.indent] := by
  simp only [adjust] at adjusted
  split at adjusted
  next =>
    split at adjusted
    next =>
      cases adjusted
      exact .inl ⟨rfl, rfl⟩
    next => cases adjusted
  next other =>
    split at adjusted
    next =>
      split at adjusted
      next => cases adjusted
      next =>
        cases adjusted
        exact .inr rfl
    next less =>
      exact absurd (Nat.le_zero.mp (Nat.not_lt.mp less)) other

/-- What is on one line and at the margin has the same words as an expression and as a statement, but
for the end of the line. -/
theorem expressionTokens_line (single : ∀ c ∈ text, c ≠ '\n' ∧ c ≠ '\r')
    (read : statementTokens text = some found) (present : found ≠ [])
    (margin : found.head? ≠ some .indent) :
    ∃ inside, expressionTokens text = some inside ∧ found = inside ++ [Token.newline] := by
  have feedless : '\n' ∉ text := fun member => (single _ member).1 rfl
  have closed : closeLine text = text ++ ['\n'] :=
    if_neg fun last => feedless (List.mem_of_getLast? last)
  rw [expressionTokens, unifyBreaks_eq fun c member => (single c member).2, scanAll_eq, words_eq]
  rw [statementTokens, unifyBreaks_eq fun c member => (single c member).2, closed, scanAll_eq,
    words_eq] at read
  simp only [advance, indentation_feed feedless] at read ⊢
  obtain ⟨_, begun, read⟩ := Option.bind_eq_some_iff.mp read
  obtain ⟨⟨width, rest⟩, begins, rfl⟩ := Option.map_eq_some_iff.mp begun
  have within : '\n' ∉ rest := fun member => feedless ((suffix_indentation begins).subset member)
  rw [begins]
  simp only [Option.bind_eq_bind, Option.bind_some, List.isEmpty_nil, Bool.not_true,
    Bool.or_false] at read ⊢
  cases rest with
  | nil =>
    obtain ⟨nothing, rfl⟩ := words_end_feed read
    exact absurd rfl present
  | cons c rest =>
    rw [first_append _ (List.cons_ne_nil c rest)] at read
    by_cases hash : c = '#'
    next =>
      -- a line with nothing but a comment has no words
      subst hash
      obtain ⟨inside, here, rfl⟩ := words_line within read
      rw [words_hash (not_or.mp (List.mem_cons.not.mp within)).2, words_nil] at here
      cases here
      exact absurd rfl present
    next =>
      have plain : c ≠ '\n' := fun same => within (same ▸ List.mem_cons_self ..)
      have visible : ((c :: rest).head?.any fun c => c == '#' || c == '\n') = false := by
        simp [hash, plain]
      simp only [visible, Bool.false_eq_true, if_false] at read ⊢
      obtain ⟨⟨layout, state⟩, adjusted, read⟩ := Option.bind_eq_some_iff.mp read
      obtain ⟨others, more, read⟩ := Option.bind_eq_some_iff.mp read
      cases read
      rcases adjust_margin adjusted with ⟨rfl, rfl⟩ | rfl
      next =>
        obtain ⟨inside, here, rfl⟩ := words_line within more
        exact ⟨inside, by simp [adjusted, here], rfl⟩
      next => exact absurd rfl margin

/-- What stands at the margin settles its brackets before its first line ends. -/
theorem words_outmost {place : Place} (read : words ⟨[], []⟩ place text = some found)
    (margin : found.head? ≠ some .indent) :
    ∃ inside rest, found = inside ++ rest ∧ Settles [] inside ∧ Border rest ∧
      weight inside ≤ text.length ∧ ('\n' ∉ text → rest = []) := by
  induction size : enough place text using Nat.strongRecOn generalizing place text with
  | ind size ih =>
    subst size
    have shorter {place' : Place} {more : Text} (read : words ⟨[], []⟩ place' more = some found)
        (less : enough place' more < enough place text) (part : more <:+ text) :
        ∃ inside rest, found = inside ++ rest ∧ Settles [] inside ∧ Border rest ∧
          weight inside ≤ text.length ∧ ('\n' ∉ text → rest = []) := by
      obtain ⟨inside, rest, split, settles, border, light, single⟩ := ih _ less read rfl
      exact ⟨inside, rest, split, settles, border, Nat.le_trans light part.length_le,
        fun feedless => single fun member => feedless (part.subset member)⟩
    have solid {more : Text} (read : words ⟨[], []⟩ (.inLine false) more = some found)
        (part : more <:+ text) :
        ∃ inside rest, found = inside ++ rest ∧ Settles [] inside ∧ Border rest ∧
          weight inside ≤ text.length ∧ ('\n' ∉ text → rest = []) := by
      obtain ⟨inside, rest, split, settles, border, light, single⟩ := words_settle read (.inl rfl)
      exact ⟨inside, rest, split, settles, border, Nat.le_trans light part.length_le,
        fun feedless => single fun member => feedless (part.subset member)⟩
    rw [words_eq] at read
    cases place with
    | lineStart =>
      obtain ⟨start, begun, read⟩ := Option.bind_eq_some_iff.mp read
      have part := suffix_indentation begun
      simp only [List.isEmpty_nil, Bool.not_true, Bool.or_false] at read
      split at read
      next =>
        have bound := part.length_le
        exact shorter read (by simp only [enough]; omega) part
      next =>
        obtain ⟨⟨layout, state⟩, adjusted, read⟩ := Option.bind_eq_some_iff.mp read
        obtain ⟨others, more, read⟩ := Option.bind_eq_some_iff.mp read
        cases read
        rcases adjust_margin adjusted with ⟨rfl, rfl⟩ | rfl
        next => exact solid more part
        next => exact absurd rfl margin
    | inLine blank =>
      simp only [advance] at read
      split at read
      next =>
        cases read
        exact ⟨[], [], rfl, settles_nil.mpr rfl, border_nil, Nat.zero_le _, fun _ => rfl⟩
      next rest =>
        split at read
        next => exact shorter read (by simp only [enough, List.length_cons]; omega) (List.suffix_cons ..)
        next =>
          obtain ⟨others, -, rfl⟩ := Option.map_eq_some_iff.mp read
          exact ⟨[], .newline :: others, rfl, settles_nil.mpr rfl, border_cons.mpr rfl, Nat.zero_le _,
            fun feedless => absurd (List.mem_cons_self ..) feedless⟩
      next rest =>
        split at read
        next after =>
          split at read
          next => cases read
          next =>
            exact shorter read (by simp only [enough, List.length_cons]; omega)
              ((List.suffix_cons ..).trans (List.suffix_cons ..))
        next => cases read
      next rest =>
        have part := List.dropWhile_suffix (l := rest) (· != '\n')
        have bound := part.length_le
        exact shorter read (by simp only [enough, List.length_cons]; omega)
          (part.trans (List.suffix_cons ..))
      next c rest feed slash hash =>
        split at read
        next => exact shorter read (by simp [enough]) (List.suffix_cons ..)
        next word =>
          -- behind the first word of a line it is no longer blank
          have plain : c ≠ '\n' ∧ c ≠ '\\' ∧ c ≠ '#' :=
            ⟨fun same => feed (by rw [same]), fun same => slash (by rw [same]),
              fun same => hash (by rw [same])⟩
          refine solid ?_ (List.suffix_refl (c :: rest))
          rw [words_inLine plain.1 plain.2.1 plain.2.2, if_neg word]
          exact read

/-- An expression on one line settles its brackets, unless it is indented. -/
theorem expressionTokens_settles (single : ∀ c ∈ text, c ≠ '\n' ∧ c ≠ '\r')
    (read : expressionTokens text = some found) (margin : found.head? ≠ some .indent) :
    Settles [] found ∧ weight found ≤ text.length := by
  rw [expressionTokens, unifyBreaks_eq fun c member => (single c member).2, scanAll_eq] at read
  obtain ⟨inside, rest, rfl, settles, -, light, alone⟩ := words_outmost read margin
  cases alone fun feed => (single _ feed).1 rfl
  rw [List.append_nil]
  exact ⟨settles, light⟩

end Stencil.Script.Lexer
