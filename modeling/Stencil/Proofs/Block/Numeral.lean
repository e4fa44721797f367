import Mathlib
import Stencil.Proofs.Locality.Word
import Stencil.Proofs.Script.Spelling

/-!
Every number has a text that is read as it.
-/

set_option autoImplicit false

namespace Stencil.Script.Block

open Script.Lexer Script.Escape

/-- Text that is read as a number. -/
structure IsNumeral (numeral : Text) (count : Nat) : Prop where
  plain : ∀ c ∈ numeral, c.isAlphanum = true ∨ c = '_'
  read : next? [] numeral = some (.number (.integer count), numeral.length, [])

variable {numeral : Text} {count base number : Nat}

theorem IsNumeral.apart (isNumeral : IsNumeral numeral count) {c : Char} (member : c ∈ numeral)
    {other : Char} (apart : other.isAlphanum = false ∧ other ≠ '_') : c ≠ other := by
  rintro rfl
  rcases isNumeral.plain c member with letter | line
  · rw [apart.1] at letter
    cases letter
  · exact apart.2 line

theorem IsNumeral.clean (isNumeral : IsNumeral numeral count) : Text.Clean numeral := fun _ member =>
  ⟨isNumeral.apart member (by decide), isNumeral.apart member (by decide),
    isNumeral.apart member (by decide)⟩

/-! ### Digits -/

theorem alphanum_of_digit {c : Char} (digit : isDigitOf base c = true) :
    c.isAlphanum = true := by
  have ranges : (48 ≤ c.toNat ∧ c.toNat ≤ 57) ∨ (97 ≤ c.toNat ∧ c.toNat ≤ 122) ∨
      (65 ≤ c.toNat ∧ c.toNat ≤ 90) := by
    by_cases decimal : 48 ≤ c.toNat ∧ c.toNat ≤ 57
    next => exact .inl decimal
    by_cases lower : 97 ≤ c.toNat ∧ c.toNat ≤ 122
    next => exact .inr (.inl lower)
    by_cases upper : 65 ≤ c.toNat ∧ c.toNat ≤ 90
    next => exact .inr (.inr upper)
    simp only [isDigitOf, digitValue?, decimal, lower, upper, if_false, Nat.lt_irrefl] at digit
    cases digit
  simp only [Char.isAlphanum, Char.isAlpha, Char.isUpper, Char.isLower, Char.isDigit,
    Bool.or_eq_true, Bool.and_eq_true, decide_eq_true_eq, ge_iff_le, UInt32.le_iff_toNat_le]
  rcases ranges with digit | lower | upper
  · exact .inr digit
  · exact .inl (.inr lower)
  · exact .inl (.inl upper)

theorem scanDigits_all {digits : Text} (all : ∀ c ∈ digits, isDigitOf base c = true) :
    scanDigits base digits = (digits, []) := by
  induction digits with
  | nil => rfl
  | cons c rest ih =>
    obtain ⟨digit, others⟩ := List.forall_mem_cons.mp all
    rw [scanDigits]
    · simp only [digit, if_true, ih others]
    · rintro d more rfl
      exact absurd digit (by simp [isDigitOf_underscore])

theorem next?_digits {c : Char} {rest : Text} {found : Number} (digit : isDigitOf 10 c = true)
    (scanned : scanNumber (c :: rest) = some (found, [])) :
    next? [] (c :: rest) = some (.number found, (c :: rest).length, []) := by
  have start : isNumberStart (c :: rest) = true := by
    have point : c ≠ '.' := by
      rintro rfl
      exact absurd digit (by decide)
    simp [isNumberStart, startsWithDigit, digit, point]
  rw [next?, if_pos start, scanned]
  rfl

/-! ### Hexadecimal numerals -/

theorem isNumeral_hex {width : Nat} (bound : number < 16 ^ width) (positive : 0 < width) :
    IsNumeral ('0' :: 'x' :: Text.hex width number) number := by
  have all := List.all_eq_true.mp (isDigitOf_hex width number)
  have scanned : basedNumber? 16 (Text.hex width number) = some (.integer number, []) := by
    have present : Text.hex width number ≠ [] := by
      rw [← List.length_pos_iff, Text.length_hex]
      exact positive
    rw [basedNumber?, scanDigits_all all]
    simp only [digitsValue_hex bound]
    rfl
  refine ⟨fun c member => .inl ?_, next?_digits rfl scanned⟩
  rcases List.mem_cons.mp member with rfl | member
  · rfl
  rcases List.mem_cons.mp member with rfl | member
  · rfl
  exact alphanum_of_digit (all c member)

/-! ### Decimal numerals -/

theorem digitValue?_decimal {digit : Nat} (bound : digit < 10) :
    digitValue? 10 digit.digitChar = some digit := by
  have all : ∀ digit, digit < 10 → digitValue? 10 (Nat.digitChar digit) = some digit := by decide
  exact all digit bound

theorem decimal_digit (bound : number < 10) : Text.decimal number = [number.digitChar] :=
  Nat.toDigits_of_lt_base bound

theorem decimal_more (bound : 10 ≤ number) :
    Text.decimal number = Text.decimal (number / 10) ++ [(number % 10).digitChar] :=
  Nat.toDigits_of_base_le (by decide) bound

theorem decimal_digits (number : Nat) :
    (∀ c ∈ Text.decimal number, isDigitOf 10 c = true) ∧
      digitsValue 10 (Text.decimal number) = number := by
  induction number using Nat.strongRecOn with
  | ind number ih =>
    by_cases bound : number < 10
    next =>
      rw [decimal_digit bound]
      simp [isDigitOf, digitsValue, digitValue?_decimal bound]
    next =>
      obtain ⟨digits, value⟩ := ih (number / 10) (by omega)
      have last := digitValue?_decimal (Nat.mod_lt number (show 0 < 10 by decide))
      rw [decimal_more (by omega), digitsValue_append, value, last]
      refine ⟨List.forall_mem_append.mpr ⟨digits, ?_⟩, by simp only [Option.getD_some]; omega⟩
      simp [isDigitOf, last]

theorem decimal_ne_nil (number : Nat) : Text.decimal number ≠ [] := by
  by_cases bound : number < 10
  next =>
    rw [decimal_digit bound]
    exact List.cons_ne_nil _ _
  next =>
    rw [decimal_more (by omega)]
    exact List.concat_ne_nil _ _

theorem decimal_first (positive : 0 < number) : (Text.decimal number).head? ≠ some '0' := by
  induction number using Nat.strongRecOn with
  | ind number ih =>
    by_cases bound : number < 10
    next =>
      have all : ∀ digit, digit < 10 → 0 < digit → Nat.digitChar digit ≠ '0' := by decide
      simpa [decimal_digit bound] using all number bound positive
    next =>
      have before := ih (number / 10) (by omega) (by omega)
      rw [decimal_more (by omega)]
      cases same : Text.decimal (number / 10) with
      | nil => exact absurd same (decimal_ne_nil _)
      | cons c rest => rwa [same] at before

/-- A number of so few digits is read from its decimal text. -/
theorem isNumeral_decimal (short : (Text.decimal number).length ≤ maximalDigits) :
    IsNumeral (Text.decimal number) number := by
  obtain ⟨digits, value⟩ := decimal_digits number
  by_cases zero : number = 0
  next =>
    subst zero
    exact ⟨fun c member => .inl (alphanum_of_digit (digits c member)), by decide +kernel⟩
  next =>
    have first := decimal_first (Nat.pos_of_ne_zero zero)
    cases same : Text.decimal number with
    | nil => exact absurd same (decimal_ne_nil _)
    | cons c rest =>
      rw [same] at first digits value short
      have scanned : scanNumber (c :: rest) = some (.integer number, []) := by
        have other : c ≠ '0' := by simpa using first
        have whole : scanNumber (c :: rest) = finishDecimal (c :: rest) [] := by
          rw [scanNumber]
          · rw [scanDigits_all digits]
          · rintro d more same
            exact absurd (List.cons.inj same).1 other
        have noZero : hasLeadingZero (c :: rest) = false := by simp [hasLeadingZero, other]
        have fits : decide ((c :: rest).length > maximalDigits) = false :=
          decide_eq_false (Nat.not_lt.mpr short)
        rw [whole]
        simp only [finishDecimal, fraction?, exponentPart, noZero, value, List.append_nil, fits,
          Bool.or_false, Bool.false_eq_true, if_false]
        rfl
      refine ⟨fun d member => .inl (alphanum_of_digit (digits d member)), ?_⟩
      exact next?_digits (digits c (List.mem_cons_self ..)) scanned

end Stencil.Script.Block
