import Stencil.Script.Number

/-!
Numbers end where they end: a closing parenthesis or a line break behind a number is no part of
it, and what follows it is not looked at.
-/

set_option autoImplicit false

namespace Stencil.Script

/-- Text that no word reaches into. -/
def Stops (text : Text) : Prop := ∀ c ∈ text.head?, c = ')' ∨ c = '\n'

theorem stops_nil : Stops [] := by simp [Stops]

theorem stops_closeParen (rest : Text) : Stops (')' :: rest) := by simp [Stops]

theorem stops_feed (rest : Text) : Stops ('\n' :: rest) := by simp [Stops]

variable {tail : Text}

theorem Stops.cases (stops : Stops tail) :
    tail = [] ∨ ∃ c rest, tail = c :: rest ∧ (c = ')' ∨ c = '\n') := by
  cases tail with
  | nil => exact .inl rfl
  | cons c rest => exact .inr ⟨c, rest, rfl, stops c rfl⟩

theorem Stops.head?_any (stops : Stops tail) {test : Char → Bool} (paren : test ')' = false)
    (feed : test '\n' = false) : tail.head?.any test = false := by
  rcases stops.cases with rfl | ⟨c, rest, rfl, rfl | rfl⟩
  · rfl
  · exact paren
  · exact feed

/-- A test of the character that comes next fails alike at the end and where a text stops. -/
theorem Stops.head?_append_any (stops : Stops tail) {test : Char → Bool}
    (paren : test ')' = false) (feed : test '\n' = false) (text : Text) :
    (text ++ tail).head?.any test = text.head?.any test := by
  cases text with
  | nil => exact stops.head?_any paren feed
  | cons c rest => rfl

theorem Stops.isPrefixOf_append (stops : Stops tail) {word : Text}
    (apart : ∀ c ∈ word, c ≠ ')' ∧ c ≠ '\n') (text : Text) :
    word.isPrefixOf (text ++ tail) = word.isPrefixOf text := by
  induction word generalizing text with
  | nil => rfl
  | cons w word ih =>
    obtain ⟨⟨paren, feed⟩, others⟩ := List.forall_mem_cons.mp apart
    cases text with
    | cons c rest => simp only [List.cons_append, List.isPrefixOf, ih others]
    | nil =>
      rcases stops.cases with rfl | ⟨c, rest, rfl, rfl | rfl⟩
      · rfl
      · simp [List.isPrefixOf, paren]
      · simp [List.isPrefixOf, feed]

/-! ### Digits -/

theorem isDigitOf_paren (base : Nat) : isDigitOf base ')' = false := by
  simp [isDigitOf, digitValue?]

theorem isDigitOf_feed (base : Nat) : isDigitOf base '\n' = false := by
  simp [isDigitOf, digitValue?]

theorem isDigitOf_underscore (base : Nat) : isDigitOf base '_' = false := by
  simp [isDigitOf, digitValue?]

theorem scanDigits_nondigit {base : Nat} {c : Char} (digit : isDigitOf base c = false)
    (plain : c ≠ '_') (rest : Text) : scanDigits base (c :: rest) = ([], c :: rest) := by
  rw [scanDigits]
  · simp only [digit, Bool.false_eq_true, if_false]
  · intro d more same
    exact absurd same plain

theorem scanDigits_stops (base : Nat) (stops : Stops tail) : scanDigits base tail = ([], tail) := by
  rcases stops.cases with rfl | ⟨c, rest, rfl, rfl | rfl⟩
  · rfl
  · exact scanDigits_nondigit (isDigitOf_paren base) (by decide) rest
  · exact scanDigits_nondigit (isDigitOf_feed base) (by decide) rest

theorem scanDigits_append (base : Nat) (stops : Stops tail) (text : Text) :
    scanDigits base (text ++ tail) =
      ((scanDigits base text).1, (scanDigits base text).2 ++ tail) := by
  fun_induction scanDigits base text with
  | case1 c rest digit digits after found ih =>
    rw [found] at ih
    simp only [List.cons_append, scanDigits, digit, if_true, ih]
  | case2 c rest digit =>
    simp only [List.cons_append, scanDigits, digit, Bool.false_eq_true, if_false]
  | case3 c rest plain digit digits after found ih =>
    rw [found] at ih
    have different : c ≠ '_' := by
      rintro rfl
      exact absurd digit (by simp [isDigitOf_underscore])
    rw [List.cons_append, scanDigits]
    · simp only [digit, if_true, ih]
    · intro d more same
      exact absurd same different
  | case4 c rest plain digit =>
    have digit : isDigitOf base c = false := by simpa using digit
    by_cases same : c = '_'
    next =>
      subst same
      have last : rest = [] := by
        cases rest with
        | nil => rfl
        | cons d more => exact (plain d more rfl rfl).elim
      subst last
      rcases stops.cases with rfl | ⟨d, more, rfl, rfl | rfl⟩
      · simp [scanDigits, isDigitOf_underscore]
      · simp [scanDigits, isDigitOf_paren]
      · simp [scanDigits, isDigitOf_feed]
    next => exact scanDigits_nondigit digit same (rest ++ tail)
  | case5 => exact scanDigits_stops base stops

theorem startsWithDigit_append (stops : Stops tail) (text : Text) :
    startsWithDigit (text ++ tail) = startsWithDigit text := by
  cases text with
  | cons c rest => rfl
  | nil =>
    rcases stops.cases with rfl | ⟨c, rest, rfl, rfl | rfl⟩
    · rfl
    · exact isDigitOf_paren 10
    · exact isDigitOf_feed 10

/-! ### Numbers -/

/-- What was read of a text, with more text behind what is left. -/
abbrev before {α : Type} (tail : Text) (found : α × Text) : α × Text := (found.1, found.2 ++ tail)

theorem mayFollowNumber_append (stops : Stops tail) (text : Text) :
    mayFollowNumber (text ++ tail) = mayFollowNumber text := by
  have letters : ∀ word ∈ followers, ∀ c ∈ word, c ≠ ')' ∧ c ≠ '\n' := by
    simp [followers]
  have same : (followers.any fun word => word.isPrefixOf (text ++ tail)) =
      followers.any fun word => word.isPrefixOf text := by
    rw [Bool.eq_iff_iff]
    simp only [List.any_eq_true]
    refine exists_congr fun word => and_congr_right fun member => ?_
    rw [stops.isPrefixOf_append (letters word member)]
  rw [mayFollowNumber, mayFollowNumber, same, stops.head?_append_any (by decide) (by decide)]

theorem ends_append (stops : Stops tail) (number : Number) (text : Text) :
    ends number (text ++ tail) = (ends number text).map (before tail) := by
  rw [ends, ends, mayFollowNumber_append stops]
  split <;> rfl

theorem basedNumber?_append (base : Nat) (stops : Stops tail) (text : Text) :
    basedNumber? base (text ++ tail) = (basedNumber? base text).map (before tail) := by
  rw [basedNumber?, basedNumber?, scanDigits_append base stops]
  obtain ⟨digits, rest⟩ := scanDigits base text
  cases digits with
  | nil => rfl
  | cons c digits => exact ends_append stops _ rest

theorem fraction?_append (stops : Stops tail) (text : Text) :
    fraction? (text ++ tail) = (fraction? text).map (before tail) := by
  cases text with
  | nil =>
    rcases stops.cases with rfl | ⟨c, rest, rfl, rfl | rfl⟩ <;> rfl
  | cons c rest =>
    rw [List.cons_append, fraction?.eq_def, fraction?.eq_def]
    by_cases point : c = '.'
    next =>
      subst point
      simp only [startsWithDigit_append stops, scanDigits_append 10 stops]
      split <;> rfl
    next => split <;> simp_all

def ExponentPart.before (tail : Text) : ExponentPart → ExponentPart
  | found value rest => found value (rest ++ tail)
  | other => other

theorem unsignedExponent_append (negative : Bool) (stops : Stops tail) (text : Text) :
    unsignedExponent negative (text ++ tail) = (unsignedExponent negative text).before tail := by
  rw [unsignedExponent, unsignedExponent, startsWithDigit_append stops, scanDigits_append 10 stops]
  split <;> rfl

theorem exponentPart_append (stops : Stops tail) (text : Text) :
    exponentPart (text ++ tail) = (exponentPart text).before tail := by
  cases text with
  | nil =>
    rcases stops.cases with rfl | ⟨c, rest, rfl, rfl | rfl⟩ <;> rfl
  | cons c rest =>
    cases rest with
    | nil =>
      rcases stops.cases with rfl | ⟨d, rest, rfl, rfl | rfl⟩ <;>
        simp [exponentPart, startsWithDigit, isDigitOf_paren, isDigitOf_feed, ExponentPart.before]
    | cons d rest =>
      by_cases plus : d = '+'
      next =>
        subst plus
        simp only [List.cons_append, exponentPart, unsignedExponent_append false stops]
        split <;> rfl
      next =>
        by_cases minus : d = '-'
        next =>
          subst minus
          simp only [List.cons_append, exponentPart, unsignedExponent_append true stops]
          split <;> rfl
        next =>
          have same := startsWithDigit_append stops (d :: rest)
          have unsigned := unsignedExponent_append false stops (d :: rest)
          rw [List.cons_append] at same unsigned
          rw [List.cons_append, List.cons_append, exponentPart.eq_3 _ _ (by simp [plus]) (by simp [minus]),
            exponentPart.eq_3 _ _ (by simp [plus]) (by simp [minus]), same, unsigned]
          split
          next => split <;> rfl
          next => rfl

theorem close_append (stops : Stops tail) (whole : List Char) (real : Bool) (value : Decimal) (rest : Text) :
      (match rest ++ tail with
        | '_' :: _ => none
        | c :: after =>
          if c == 'j' || c == 'J' then ends (.imaginary value) after
          else if real then ends (.real value) (rest ++ tail)
          else if hasLeadingZero whole || whole.length > maximalDigits then none
          else ends (.integer (digitsValue 10 whole)) (rest ++ tail)
        | [] =>
          if real then ends (.real value) (rest ++ tail)
          else if hasLeadingZero whole || whole.length > maximalDigits then none
          else ends (.integer (digitsValue 10 whole)) (rest ++ tail)) =
      (match rest with
        | '_' :: _ => none
        | c :: after =>
          if c == 'j' || c == 'J' then ends (.imaginary value) after
          else if real then ends (.real value) rest
          else if hasLeadingZero whole || whole.length > maximalDigits then none
          else ends (.integer (digitsValue 10 whole)) rest
        | [] =>
          if real then ends (.real value) rest
          else if hasLeadingZero whole || whole.length > maximalDigits then none
          else ends (.integer (digitsValue 10 whole)) rest : Option (Number × Text)).map
            (before tail) := by
    have a := ends_append stops (.real value) rest
    have b := ends_append stops (.integer (digitsValue 10 whole)) rest
    cases rest with
    | cons c rest =>
      have d := ends_append stops (.imaginary value) rest
      grind
    | nil =>
      rcases stops.cases with rfl | ⟨d, rest, rfl, rfl | rfl⟩ <;> grind

theorem finishDecimal_append (stops : Stops tail) (whole : List Char) (text : Text) :
    finishDecimal whole (text ++ tail) = (finishDecimal whole text).map (before tail) := by
  have last (behind : List Char) (pointed : Bool) (rest : Text) : _ :=
    close_append stops whole pointed ⟨digitsValue 10 (whole ++ behind), 0 - behind.length⟩ rest
  have exponent (behind : List Char) (value : Int) (rest : Text) : _ :=
    close_append stops whole true ⟨digitsValue 10 (whole ++ behind), value - behind.length⟩ rest
  rw [finishDecimal, finishDecimal, fraction?_append stops]
  cases fraction? text with
  | none =>
    simp only [Option.map_none]
    rw [exponentPart_append stops]
    cases exponentPart text with
    | absent => exact last [] false text
    | malformed => rfl
    | found e after => exact exponent [] e after
  | some found =>
    obtain ⟨digits, rest⟩ := found
    simp only [Option.map_some]
    rw [exponentPart_append stops]
    cases exponentPart rest with
    | absent => exact last digits true rest
    | malformed => rfl
    | found e after => exact exponent digits e after

theorem scanNumber_zero {c : Char} {rest : Text}
    (decimal : (c == 'x' || c == 'X') = false ∧ (c == 'o' || c == 'O') = false ∧
      (c == 'b' || c == 'B') = false) :
    scanNumber ('0' :: c :: rest) =
      finishDecimal (scanDigits 10 ('0' :: c :: rest)).1 (scanDigits 10 ('0' :: c :: rest)).2 := by
  simp only [scanNumber, decimal, Bool.false_eq_true, if_false]

theorem scanNumber_append (stops : Stops tail) {text : Text} (present : text ≠ []) :
    scanNumber (text ++ tail) = (scanNumber text).map (before tail) := by
  have plain : finishDecimal (scanDigits 10 (text ++ tail)).1 (scanDigits 10 (text ++ tail)).2 =
      (finishDecimal (scanDigits 10 text).1 (scanDigits 10 text).2).map (before tail) := by
    rw [scanDigits_append 10 stops]
    exact finishDecimal_append stops _ _
  cases text with
  | nil => exact absurd rfl present
  | cons first rest =>
    by_cases zero : first = '0'
    next =>
      subst zero
      cases rest with
      | nil =>
        have single : scanNumber ['0'] = finishDecimal (scanDigits 10 ['0']).1
            (scanDigits 10 ['0']).2 := rfl
        rcases stops.cases with rfl | ⟨d, more, rfl, rfl | rfl⟩
        · rfl
        · rw [single, ← plain]
          exact scanNumber_zero (by decide)
        · rw [single, ← plain]
          exact scanNumber_zero (by decide)
      | cons c rest =>
        by_cases hex : (c == 'x' || c == 'X') = true
        next => simpa only [List.cons_append, scanNumber, hex, if_true] using
          basedNumber?_append 16 stops rest
        next =>
          by_cases octal : (c == 'o' || c == 'O') = true
          next => simpa only [List.cons_append, scanNumber, hex, octal, if_true, if_false,
            Bool.false_eq_true] using
            basedNumber?_append 8 stops rest
          next =>
            by_cases binary : (c == 'b' || c == 'B') = true
            next =>
              simpa only [List.cons_append, scanNumber, hex, octal, binary, if_true, if_false,
                Bool.false_eq_true] using
                basedNumber?_append 2 stops rest
            next =>
              have decimal : (c == 'x' || c == 'X') = false ∧ (c == 'o' || c == 'O') = false ∧
                  (c == 'b' || c == 'B') = false := by simp_all
              rw [scanNumber_zero decimal, ← plain]
              exact scanNumber_zero decimal
    next =>
      have other (more : Text) : scanNumber (first :: more) =
          finishDecimal (scanDigits 10 (first :: more)).1 (scanDigits 10 (first :: more)).2 := by
        rw [scanNumber.eq_2]
        intro c rest same
        exact zero (List.cons.inj same).1
      rw [other, ← plain]
      exact other (rest ++ tail)

end Stencil.Script
