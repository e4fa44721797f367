import Mathlib
import Stencil.Fragment
import Stencil.Proofs.Text.Inside

/-!
A text that is written into a literal is what the literal means, and it stays within the quotes
and on its line.
-/

set_option autoImplicit false

namespace Stencil

namespace Script.Escape

/-- What the inside of a literal means, without a bound on the steps. -/
inductive Spells : Text → Points → Prop where
  | nil : Spells [] []
  | plain {c : Char} {rest : Text} {points : Points} (bare : c ≠ '\\')
      (others : Spells rest points) : Spells (c :: rest) (.char c :: points)
  | escape {rest after : Text} {meant points : Points} (found : escape? rest = some (meant, after))
      (shorter : after.length ≤ rest.length) (others : Spells after points) :
      Spells ('\\' :: rest) (meant ++ points)

theorem unescapeUpTo_of_spells {text : Text} {points : Points} (spells : Spells text points)
    {fuel : Nat} (bound : text.length < fuel) : unescapeUpTo fuel text = some points := by
  induction spells generalizing fuel with
  | nil =>
    cases fuel with
    | zero => omega
    | succ fuel => rfl
  | plain bare others ih =>
    rename_i c rest points
    cases fuel with
    | zero => omega
    | succ fuel =>
      simp only [List.length_cons] at bound
      rw [unescapeUpTo.eq_4 _ _ _ bare, ih (by omega)]
      rfl
  | escape found shorter others ih =>
    cases fuel with
    | zero => omega
    | succ fuel =>
      simp only [List.length_cons] at bound
      rw [unescapeUpTo, found]
      simp [ih (show _ < fuel by omega)]

theorem unescape?_of_spells {text : Text} {points : Points} (spells : Spells text points) :
    unescape? text = some points :=
  unescapeUpTo_of_spells spells (Nat.lt_succ_self _)

theorem spells_simple {c meant : Char} {rest : Text} {points : Points}
    (known : simple? c = some meant) (others : Spells rest points) :
    Spells ('\\' :: c :: rest) (.char meant :: points) := by
  have found : escape? (c :: rest) = some ([.char meant], rest) := by
    unfold simple? at known
    split at known <;> cases known <;> rfl
  exact .escape found (Nat.le_succ _) others

/-! ### Hexadecimal digits -/

theorem digitsValue_append (base : Nat) (left : List Char) (c : Char) :
    digitsValue base (left ++ [c]) =
      digitsValue base left * base + (digitValue? base c).getD 0 := by
  simp [digitsValue]

theorem digitValue?_hexDigit (value : Nat) :
    digitValue? 16 (Text.hexDigit value) = some (value % 16) := by
  have all : ∀ digit, digit < 16 → digitValue? 16 (Nat.digitChar digit) = some digit := by decide
  exact all _ (Nat.mod_lt _ (by decide))

theorem isDigitOf_hex (width value : Nat) :
    (Text.hex width value).all (isDigitOf 16) = true := by
  induction width generalizing value with
  | zero => rfl
  | succ width ih => simp [Text.hex, ih, isDigitOf, digitValue?_hexDigit]

theorem digitsValue_hex {width value : Nat} (bound : value < 16 ^ width) :
    digitsValue 16 (Text.hex width value) = value := by
  induction width generalizing value with
  | zero =>
    have zero : value = 0 := by simpa using bound
    rw [zero]
    rfl
  | succ width ih =>
    rw [Nat.pow_succ] at bound
    rw [Text.hex, digitsValue_append, ih (by omega), digitValue?_hexDigit, Option.getD_some]
    omega

theorem numeric?_hex {width : Nat} {c : Char} (bound : c.toNat < 16 ^ width) (rest : Text) :
    numeric? width (Text.hex width c.toNat ++ rest) = some ([.char c], rest) := by
  have length := Text.length_hex width c.toNat
  have digits : (Text.hex width c.toNat ++ rest).take width = Text.hex width c.toNat :=
    List.take_left' length
  have after : (Text.hex width c.toNat ++ rest).drop width = rest := List.drop_left' length
  have valid : c.toNat.isValidChar := c.valid
  have same : Char.ofNatAux c.toNat valid = c := rfl
  simp [numeric?, hexValue?, digits, after, length, isDigitOf_hex, digitsValue_hex bound,
    Point.ofCode?, valid, same]

/-! ### Texts as they are written -/

theorem spells_literalBody (text : Text) :
    Spells (Fragment.literalBody text) (Points.ofText text) := by
  induction text with
  | nil => exact .nil
  | cons c rest ih =>
    have first : Fragment.literalBody (c :: rest) =
        (Fragment.escaped? c).getD [c] ++ Fragment.literalBody rest := rfl
    rw [first]
    unfold Fragment.escaped?
    split
    next => exact spells_simple rfl ih
    next => exact spells_simple rfl ih
    next => exact spells_simple rfl ih
    next => exact spells_simple rfl ih
    next bare _ _ _ => exact .plain (fun same => bare same) ih

theorem spells_numericEscape (c : Char) {rest : Text} {points : Points}
    (others : Spells rest points) :
    Spells (Text.numericEscape c ++ rest) (.char c :: points) := by
  have spells {width : Nat} {letter : Char} (bound : c.toNat < 16 ^ width)
      (kind : ∀ text, escape? (letter :: text) = numeric? width text) :
      Spells ('\\' :: letter :: Text.hex width c.toNat ++ rest) (.char c :: points) := by
    have shorter : rest.length ≤ (letter :: Text.hex width c.toNat ++ rest).length := by
      simp only [List.length_cons, List.length_append]
      omega
    exact .escape ((kind _).trans (numeric?_hex bound rest)) shorter others
  have top : c.toNat < 0x110000 := by
    have valid := c.valid
    simp only [Char.toNat, UInt32.isValidChar, Nat.isValidChar] at valid ⊢
    omega
  unfold Text.numericEscape
  split
  next bound => exact spells bound fun _ => rfl
  next =>
    split
    next bound => exact spells bound fun _ => rfl
    next => exact spells (Nat.lt_trans top (by decide)) fun _ => rfl

theorem spells_quoted (quote : Char) (known : simple? quote = some quote) (text : Text) :
    Spells (text.flatMap (Text.quotedChar quote)) (Points.ofText text) := by
  induction text with
  | nil => exact .nil
  | cons c rest ih =>
    rw [List.flatMap_cons]
    unfold Text.quotedChar
    split
    next special =>
      simp only [Bool.or_eq_true, beq_iff_eq] at special
      rcases special with rfl | rfl
      · exact spells_simple known ih
      · exact spells_simple rfl ih
    next ordinary =>
      simp only [Bool.or_eq_true, beq_iff_eq, not_or] at ordinary
      split
      next same =>
        cases beq_iff_eq.mp same
        exact spells_simple rfl ih
      next =>
        split
        next same =>
          cases beq_iff_eq.mp same
          exact spells_simple rfl ih
        next =>
          split
          next same =>
            cases beq_iff_eq.mp same
            exact spells_simple rfl ih
          next =>
            split
            next => exact .plain ordinary.2 ih
            next => exact spells_numericEscape c ih

end Script.Escape

namespace Text

/-! ### Within the quotes -/

theorem isInside_flatMap {quote : Char} {write : Char → Text}
    (each : ∀ c, isInside quote (write c) = true) (text : Text) :
    isInside quote (text.flatMap write) = true := by
  induction text with
  | nil => rfl
  | cons c rest ih => rw [List.flatMap_cons, isInside_append (each c), ih]

theorem isInside_of_plain {quote : Char} {text : Text}
    (plain : ∀ c ∈ text, c ≠ '\\' ∧ c ≠ quote) : isInside quote text = true := by
  induction text with
  | nil => rfl
  | cons c rest ih =>
    have first := plain c (List.mem_cons_self ..)
    rw [isInside_cons first.1, ih fun d member => plain d (List.mem_cons_of_mem _ member),
      Bool.and_true]
    simpa using first.2

theorem isInside_literalBody (text : Text) :
    isInside '\'' (Fragment.literalBody text) = true := by
  refine isInside_flatMap (fun c => ?_) text
  unfold Fragment.escaped?
  split
  next => rfl
  next => rfl
  next => rfl
  next => rfl
  next noSlash noQuote _ _ =>
    exact isInside_of_plain fun d member => by
      cases List.mem_singleton.mp member
      exact ⟨noSlash, noQuote⟩

theorem isQuote_quoteFor (text : Text) : quoteFor text = '"' ∨ quoteFor text = '\'' := by
  unfold quoteFor
  split
  next => exact .inl rfl
  next => exact .inr rfl

theorem mem_hex {width value : Nat} {c : Char} (member : c ∈ hex width value) :
    ∃ digit, digit < 16 ∧ c = Nat.digitChar digit := by
  induction width generalizing value with
  | zero => cases member
  | succ width ih =>
    rcases List.mem_append.mp member with before | last
    · exact ih before
    · exact ⟨value % 16, Nat.mod_lt _ (by decide), List.mem_singleton.mp last⟩

theorem hex_avoids {avoided : Char} (apart : ∀ digit, digit < 16 → Nat.digitChar digit ≠ avoided)
    {width value : Nat} {c : Char} (member : c ∈ hex width value) : c ≠ avoided := by
  obtain ⟨digit, bound, rfl⟩ := mem_hex member
  exact apart digit bound

/-- A numeric escape is a backslash, a letter and digits. -/
theorem numericEscape_eq (c : Char) :
    ∃ letter width, letter ∈ ['x', 'u', 'U'] ∧
      numericEscape c = '\\' :: letter :: hex width c.toNat := by
  unfold numericEscape
  split
  next => exact ⟨'x', 2, by simp, rfl⟩
  next =>
    split
    next => exact ⟨'u', 4, by simp, rfl⟩
    next => exact ⟨'U', 8, by simp, rfl⟩

theorem isInside_quotedChar {quote : Char} (known : quote = '"' ∨ quote = '\'') (c : Char) :
    isInside quote (quotedChar quote c) = true := by
  unfold quotedChar
  split
  next => rfl
  next ordinary =>
    simp only [Bool.or_eq_true, beq_iff_eq, not_or] at ordinary
    split
    next => rfl
    next =>
      split
      next => rfl
      next =>
        split
        next => rfl
        next =>
          split
          next =>
            exact isInside_of_plain fun d member => by
              cases List.mem_singleton.mp member
              exact ⟨ordinary.2, ordinary.1⟩
          next =>
            obtain ⟨letter, width, _, same⟩ := numericEscape_eq c
            rw [same, isInside]
            refine isInside_of_plain fun d member => ⟨hex_avoids (by decide) member, ?_⟩
            rcases known with rfl | rfl
            · exact hex_avoids (by decide) member
            · exact hex_avoids (by decide) member

/-! ### On its line -/

/-- A piece of a line of code: nothing in it ends the line or the code. -/
def Clean (text : Text) : Prop := ∀ c ∈ text, c ≠ '\n' ∧ c ≠ '\r' ∧ c ≠ '\x00'

instance (text : Text) : Decidable (Clean text) :=
  List.decidableBAll (fun c => c ≠ '\n' ∧ c ≠ '\r' ∧ c ≠ '\x00') text

theorem clean_append {left right : Text} (first : Clean left) (second : Clean right) :
    Clean (left ++ right) := by
  intro c member
  rcases List.mem_append.mp member with before | behind
  · exact first c before
  · exact second c behind

theorem clean_flatMap {write : Char → Text} {text : Text} (each : ∀ c ∈ text, Clean (write c)) :
    Clean (text.flatMap write) := by
  intro d member
  obtain ⟨c, inside, written⟩ := List.mem_flatMap.mp member
  exact each c inside d written

theorem clean_single {c : Char} (feed : c ≠ '\n') (carriage : c ≠ '\r') (nul : c ≠ '\x00') :
    Clean [c] := by
  intro d member
  cases List.mem_singleton.mp member
  exact ⟨feed, carriage, nul⟩

theorem clean_literalBody {text : Text} (readable : '\x00' ∉ text) :
    Clean (Fragment.literalBody text) := by
  refine clean_flatMap fun c inside => ?_
  unfold Fragment.escaped?
  split
  next => decide
  next => decide
  next => decide
  next => decide
  next _ _ noReturn noFeed =>
    exact clean_single noFeed noReturn fun same => readable (same ▸ inside)

theorem clean_quotedChar (quote : Char) (known : quote = '"' ∨ quote = '\'') (c : Char) :
    Clean (quotedChar quote c) := by
  unfold quotedChar
  split
  next special =>
    simp only [Bool.or_eq_true, beq_iff_eq] at special
    rcases special with rfl | rfl
    · rcases known with rfl | rfl <;> decide
    · decide
  next =>
    split
    next => decide
    next feed =>
      split
      next => decide
      next carriage =>
        split
        next => decide
        next =>
          simp only [beq_iff_eq] at feed carriage
          split
          next printable =>
            refine clean_single feed carriage fun same => ?_
            rw [same] at printable
            exact absurd printable (by decide)
          next =>
            obtain ⟨letter, width, known, same⟩ := numericEscape_eq c
            rw [same]
            have start : Clean ['\\', letter] := by
              simp only [List.mem_cons, List.not_mem_nil, or_false] at known
              rcases known with rfl | rfl | rfl <;> decide
            refine clean_append start fun d member => ?_
            exact ⟨hex_avoids (by decide) member, hex_avoids (by decide) member,
              hex_avoids (by decide) member⟩

end Text

end Stencil
