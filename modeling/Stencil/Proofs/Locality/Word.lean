import Stencil.Proofs.Locality.Number
import Stencil.Proofs.Locality.Reader
import Stencil.Proofs.Script.Words

/-!
Words end where they end: the word at the start of a text is the same where a closing parenthesis
or a line break follows the text. A word is no longer than its text.
-/

set_option autoImplicit false

namespace Stencil.Script

variable {tail : Text}

/-! ### Symbols -/

theorem Stops.isPrefixOf_cons (stops : Stops tail) {word text : Text} (present : text ≠ [])
    (apart : ∀ c ∈ word.tail, c ≠ ')' ∧ c ≠ '\n') :
    word.isPrefixOf (text ++ tail) = word.isPrefixOf text := by
  cases word with
  | nil => rfl
  | cons w word =>
    cases text with
    | nil => exact absurd rfl present
    | cons c rest =>
      rw [List.tail_cons] at apart
      simp only [List.cons_append, List.isPrefixOf, stops.isPrefixOf_append apart]

namespace Symbol

theorem spellings_apart : ∀ entry ∈ spellings, ∀ c ∈ entry.1.tail, c ≠ ')' ∧ c ≠ '\n' := by
  have apart : (spellings.all fun entry => entry.1.tail.all fun c => c != ')' && c != '\n') =
      true := by decide
  simpa using apart

theorem spellings_ne_nil : ∀ entry ∈ spellings, entry.1 ≠ [] := by
  decide

theorem scan?_append (stops : Stops tail) {text : Text} (present : text ≠ []) :
    scan? (text ++ tail) = scan? text := by
  have unequal : "<>".toList.isPrefixOf (text ++ tail) = "<>".toList.isPrefixOf text :=
    stops.isPrefixOf_cons present (by simp)
  have each (entries : List (Text × Symbol))
      (apart : ∀ entry ∈ entries, ∀ c ∈ entry.1.tail, c ≠ ')' ∧ c ≠ '\n') :
      entries.find? (·.1.isPrefixOf (text ++ tail)) = entries.find? (·.1.isPrefixOf text) := by
    induction entries with
    | nil => rfl
    | cons entry entries ih =>
      obtain ⟨first, others⟩ := List.forall_mem_cons.mp apart
      simp only [List.find?_cons, stops.isPrefixOf_cons present first, ih others]
  rw [scan?, scan?, unequal, each spellings spellings_apart]

theorem scan?_length {text : Text} {symbol : Symbol} {length : Nat}
    (found : scan? text = some (symbol, length)) : 0 < length ∧ length ≤ text.length := by
  unfold scan? at found
  split at found
  next => cases found
  next =>
    obtain ⟨entry, known, same⟩ := Option.map_eq_some_iff.mp found
    cases same
    have member := List.mem_of_find?_eq_some known
    have begins := List.find?_some known
    exact ⟨List.length_pos_iff.mpr (spellings_ne_nil entry member),
      (List.isPrefixOf_iff_prefix.mp begins).length_le⟩

end Symbol

namespace Lexer

/-! ### Strings -/

variable {quote : Char}

theorem stringLength?_extends {text : Text} {length : Nat}
    (found : stringLength? quote text = some length) (tail : Text) :
    stringLength? quote (text ++ tail) = some length ∧ 0 < length ∧ length ≤ text.length := by
  fun_induction stringLength? quote text generalizing length with
  | case1 => cases found
  | case2 => cases found
  | case3 c rest ih =>
    obtain ⟨inner, known, rfl⟩ := Option.map_eq_some_iff.mp found
    obtain ⟨same, positive, bound⟩ := ih known
    refine ⟨by simp [stringLength?, same], by omega, ?_⟩
    simp only [List.length_cons]
    omega
  | case4 rest lone pair =>
    cases found
    refine ⟨?_, Nat.one_pos, by simp⟩
    rw [List.cons_append, stringLength?_cons (Text.plain_of_alone lone pair), if_pos rfl]
  | case5 => cases found
  | case6 c rest lone pair apart plain ih =>
    obtain ⟨inner, known, rfl⟩ := Option.map_eq_some_iff.mp found
    obtain ⟨same, positive, bound⟩ := ih known
    refine ⟨?_, by omega, Nat.succ_le_succ bound⟩
    rw [List.cons_append, stringLength?_cons (Text.plain_of_alone lone pair), if_neg apart,
      if_neg plain, same, Option.map_some]

theorem longStringLength?_cons {c : Char} {rest : Text} (plain : c ≠ '\\') :
    longStringLength? quote (c :: rest) =
      if c = quote ∧ [quote, quote].isPrefixOf rest then some 3
      else (longStringLength? quote rest).map (· + 1) := by
  rw [longStringLength?]
  · rintro rfl
    exact absurd rfl plain
  · rintro d more rfl
    exact absurd rfl plain

theorem isQuote_apart (known : isQuote quote = true) : ∀ c ∈ [quote, quote], c ≠ ')' ∧ c ≠ '\n' := by
  simp only [isQuote, Bool.or_eq_true, beq_iff_eq] at known
  rcases known with rfl | rfl <;> simp

theorem longStringLength?_append (known : isQuote quote = true) (stops : Stops tail) {text : Text}
    {length : Nat} (found : longStringLength? quote text = some length) :
    longStringLength? quote (text ++ tail) = some length ∧ 3 ≤ length ∧ length ≤ text.length := by
  fun_induction longStringLength? quote text generalizing length with
  | case1 => cases found
  | case2 => cases found
  | case3 c rest ih =>
    obtain ⟨inner, more, rfl⟩ := Option.map_eq_some_iff.mp found
    obtain ⟨same, least, bound⟩ := ih more
    refine ⟨by simp [longStringLength?, same], by omega, ?_⟩
    simp only [List.length_cons]
    omega
  | case4 c rest lone pair ends =>
    cases found
    have two := (List.isPrefixOf_iff_prefix.mp ends.2).length_le
    refine ⟨?_, Nat.le_refl _, Nat.succ_le_succ two⟩
    rw [List.cons_append, longStringLength?_cons (Text.plain_of_alone lone pair),
      stops.isPrefixOf_append (isQuote_apart known), if_pos ends]
  | case5 c rest lone pair goes ih =>
    obtain ⟨inner, more, rfl⟩ := Option.map_eq_some_iff.mp found
    obtain ⟨same, least, bound⟩ := ih more
    refine ⟨?_, by omega, Nat.succ_le_succ bound⟩
    rw [List.cons_append, longStringLength?_cons (Text.plain_of_alone lone pair),
      stops.isPrefixOf_append (isQuote_apart known), if_neg goes, same, Option.map_some]

/-- What stands in quotes is two shorter than the whole, or more. -/
theorem quotes?_append_stops (stops : Stops tail) {text body : Text} {length : Nat}
    (quoted : text.head?.any isQuote = true) (found : quotes? text = some (body, length)) :
    quotes? (text ++ tail) = some (body, length) ∧ body.length + 2 ≤ length ∧
      length ≤ text.length := by
  cases text with
  | nil => cases found
  | cons quote rest =>
    have known : isQuote quote = true := quoted
    have triple := stops.isPrefixOf_append (isQuote_apart known) rest
    simp only [quotes?] at found
    simp only [List.cons_append, quotes?, triple]
    split at found
    next long =>
      obtain ⟨inner, more, same⟩ := Option.map_eq_some_iff.mp found
      cases same
      have two := (List.isPrefixOf_iff_prefix.mp long).length_le
      obtain ⟨extended, least, bound⟩ := longStringLength?_append known stops more
      simp only [List.length_cons, List.length_nil, List.length_drop] at two bound
      have dropped : (rest ++ tail).drop 2 = rest.drop 2 ++ tail := List.drop_append_of_le_length two
      have taken : (rest.drop 2 ++ tail).take (inner - 3) = (rest.drop 2).take (inner - 3) :=
        List.take_append_of_le_length (by rw [List.length_drop]; omega)
      refine ⟨by rw [if_pos long, dropped, extended, Option.map_some, taken], ?_, ?_⟩
      · rw [List.length_take, List.length_drop]
        omega
      · rw [List.length_cons]
        omega
    next short =>
      obtain ⟨inner, more, same⟩ := Option.map_eq_some_iff.mp found
      cases same
      obtain ⟨extended, positive, bound⟩ := stringLength?_extends more tail
      have taken : (rest ++ tail).take (inner - 1) = rest.take (inner - 1) :=
        List.take_append_of_le_length (by omega)
      refine ⟨by rw [if_neg short, extended, Option.map_some, taken], ?_, Nat.succ_le_succ bound⟩
      rw [List.length_take]
      omega

/-! ### Words -/

theorem takeWhile_stops (stops : Stops tail) (text : Text) :
    (text ++ tail).takeWhile isWordPart = text.takeWhile isWordPart := by
  induction text with
  | nil =>
    rcases stops.cases with rfl | ⟨c, rest, rfl, rfl | rfl⟩
    · rfl
    · rfl
    · rfl
  | cons c text ih => simp only [List.cons_append, List.takeWhile_cons, ih]

theorem word?_append (stops : Stops tail) {text : Text} {token : Token} {length : Nat}
    (found : word? text = some (token, length)) :
    word? (text ++ tail) = some (token, length) ∧ token.weight ≤ max length 1 ∧
      length ≤ text.length ∧ token.isPlain = true := by
  have prefixed := (List.takeWhile_prefix (l := text) isWordPart).length_le
  have dropped : (text ++ tail).drop (text.takeWhile isWordPart).length =
      text.drop (text.takeWhile isWordPart).length ++ tail :=
    List.drop_append_of_le_length prefixed
  have next : (text.drop (text.takeWhile isWordPart).length ++ tail).head?.any isQuote =
      (text.drop (text.takeWhile isWordPart).length).head?.any isQuote :=
    stops.head?_append_any rfl rfl _
  simp only [word?] at found
  simp only [word?, takeWhile_stops stops, dropped, next]
  generalize size : (text.takeWhile isWordPart).length = count at *
  split at found
  next style known =>
    obtain ⟨⟨body, inner⟩, more, same⟩ := Option.map_eq_some_iff.mp found
    cases same
    have quoted : (text.drop count).head?.any isQuote = true := by
      by_cases quoted : (text.drop count).head?.any isQuote = true
      next => exact quoted
      next =>
        rw [if_neg quoted] at known
        cases known
    obtain ⟨extended, least, bound⟩ := quotes?_append_stops stops quoted more
    rw [List.length_drop] at bound
    refine ⟨by rw [extended, Option.map_some], ?_, by omega, rfl⟩
    simp only [Token.weight]
    omega
  next =>
    split at found
    next =>
      cases found
      exact ⟨rfl, Nat.le_max_right _ _, prefixed, rfl⟩
    next =>
      split at found
      next identifier =>
        cases found
        exact ⟨if_pos identifier, Nat.le_max_right _ _, prefixed, rfl⟩
      next => cases found

theorem isNumberStart_append (stops : Stops tail) {text : Text} (present : text ≠ []) :
    isNumberStart (text ++ tail) = isNumberStart text := by
  cases text with
  | nil => exact absurd rfl present
  | cons c rest =>
    by_cases point : c = '.'
    next =>
      subst point
      exact startsWithDigit_append stops rest
    next =>
      have plain (rest : Text) : isNumberStart (c :: rest) = isDigitOf 10 c := by
        unfold isNumberStart
        split
        next same => exact absurd (List.cons.inj same).1 point
        next => rfl
      rw [List.cons_append, plain, plain]

theorem bracket?_eq_some {closers later : List Symbol} {symbol : Symbol} :
    bracket? closers symbol = some later ↔
      Token.follow closers (.symbol symbol) = some later ∧
        (symbol.closer?.isSome = true → closers.length < maximalBrackets) := by
  cases opens : symbol.closer? with
  | none =>
    cases closers <;> simp [bracket?, Token.follow, opens]
  | some closer =>
    by_cases less : closers.length < maximalBrackets <;> simp [bracket?, Token.follow, opens, less]

theorem follow_append {closers later : List Symbol} {token : Token}
    (follows : token.follow closers = some later) (base : List Symbol) :
    token.follow (closers ++ base) = some (later ++ base) := by
  cases token with
  | symbol sign =>
    cases opens : sign.closer? with
    | some closer =>
      simp only [Token.follow, opens, Option.some.injEq] at follows ⊢
      rw [← follows, List.cons_append]
    | none =>
      by_cases closes : sign.isCloser = true
      next =>
        cases closers with
        | nil => simp [Token.follow, opens, closes] at follows
        | cons innermost outer =>
          simp only [Token.follow, opens, closes, if_true, List.cons_append] at follows ⊢
          split at follows
          next same =>
            cases follows
            exact if_pos same
          next => cases follows
      next =>
        simp only [Token.follow, opens, closes, Bool.false_eq_true, if_false,
          Option.some.injEq] at follows ⊢
        rw [follows]
  | newline => cases follows
  | indent => cases follows
  | dedent => cases follows
  | _ =>
    cases follows
    rfl

/-- What kind of word comes next is seen from its first characters. -/
theorem next?_cases {closers : List Symbol} {text : Text} {found : Token × Nat × List Symbol} :
    next? closers text = some found ↔
      (isNumberStart text = true ∧ ∃ number rest, scanNumber text = some (number, rest) ∧
          (.number number, text.length - rest.length, closers) = found) ∨
      (isNumberStart text = false ∧ (text.head?.any fun c => isWordPart c || isQuote c) = true ∧
        ∃ token length, word? text = some (token, length) ∧ (token, length, closers) = found) ∨
      (isNumberStart text = false ∧ (text.head?.any fun c => isWordPart c || isQuote c) = false ∧
        ∃ symbol length, Symbol.scan? text = some (symbol, length) ∧
          ∃ later, bracket? closers symbol = some later ∧ (.symbol symbol, length, later) = found) := by
  unfold next?
  cases isNumberStart text with
  | true => simp
  | false =>
    cases text.head?.any fun c => isWordPart c || isQuote c with
    | true => simp
    | false => simp [Option.bind_eq_some_iff]

theorem next?_follow {text : Text} {closers later : List Symbol} {token : Token} {length : Nat}
    (found : next? closers text = some (token, length, later)) :
    token.follow closers = some later ∧ token.weight ≤ max length 1 ∧ length ≤ text.length := by
  rcases next?_cases.mp found with ⟨_, number, rest, _, same⟩ | ⟨_, _, token, length, word, same⟩ |
    ⟨_, _, symbol, length, scanned, later, closes, same⟩
  · cases same
    exact ⟨rfl, Nat.le_max_right _ _, Nat.sub_le _ _⟩
  · cases same
    obtain ⟨-, light, bound, plain⟩ := word?_append stops_nil word
    exact ⟨Token.follow_plain plain _, light, bound⟩
  · cases same
    exact ⟨(bracket?_eq_some.mp closes).1, Nat.le_max_right _ _, (Symbol.scan?_length scanned).2⟩

theorem first_append (tail : Text) {text : Text} (present : text ≠ []) (test : Char → Bool) :
    (text ++ tail).head?.any test = text.head?.any test := by
  cases text with
  | nil => exact absurd rfl present
  | cons c rest => rfl

/-- Whether one more bracket may be open, if a word opens one. -/
def Room (closers : List Symbol) (token : Token) : Prop :=
  ∀ symbol, token = .symbol symbol → symbol.closer?.isSome = true → closers.length < maximalBrackets

/-- The word that comes next, with a tail behind the text and more brackets around it. -/
theorem next?_append (stops : Stops tail) {text : Text} (present : text ≠ [])
    {closers later : List Symbol} {token : Token} {length : Nat}
    (found : next? closers text = some (token, length, later)) {base : List Symbol}
    (room : Room (closers ++ base) token) :
    next? (closers ++ base) (text ++ tail) = some (token, length, later ++ base) := by
  rw [next?_cases, isNumberStart_append stops present, first_append tail present]
  rcases next?_cases.mp found with ⟨number, value, rest, scanned, same⟩ |
    ⟨plain, word, token, length, read, same⟩ | ⟨plain, apart, symbol, length, scanned, later, closes, same⟩
  · cases same
    refine .inl ⟨number, value, rest ++ tail, ?_, ?_⟩
    · rw [scanNumber_append stops present, scanned]
      rfl
    · simp [Nat.add_sub_add_right]
  · cases same
    exact .inr (.inl ⟨plain, word, token, length, (word?_append stops read).1, rfl⟩)
  · cases same
    rw [← Symbol.scan?_append stops present] at scanned
    refine .inr (.inr ⟨plain, apart, symbol, length, scanned, later ++ base, ?_, rfl⟩)
    exact bracket?_eq_some.mpr
      ⟨follow_append (bracket?_eq_some.mp closes).1 base, fun opens => room symbol rfl opens⟩

/-- Where the word is read with more brackets around it, there is room for it. -/
theorem room_of_next? (stops : Stops tail) {text : Text} (present : text ≠ [])
    {closers closers' later : List Symbol} {token : Token} {length : Nat}
    (found : next? closers text = some (token, length, later))
    (read : (next? closers' (text ++ tail)).isSome = true) : Room closers' token := by
  rintro symbol rfl opens
  obtain ⟨other, known⟩ := Option.isSome_iff_exists.mp read
  rw [next?_cases, isNumberStart_append stops present, first_append tail present,
    Symbol.scan?_append stops present] at known
  rcases next?_cases.mp found with ⟨_, _, _, _, same⟩ | ⟨_, _, _, _, word, same⟩ |
    ⟨plain, apart, _, _, scanned, _, closes, same⟩
  · cases same
  · cases same
    have plain := (word?_append stops_nil word).2.2.2
    simp [Token.isPlain] at plain
    simp [plain.1] at opens
  · cases same
    rcases known with ⟨number, _⟩ | ⟨_, word, _⟩ | ⟨_, _, _, _, again, _, fits, _⟩
    · rw [plain] at number
      cases number
    · rw [apart] at word
      cases word
    · cases scanned.symm.trans again
      exact (bracket?_eq_some.mp fits).2 opens

end Lexer

end Stencil.Script
