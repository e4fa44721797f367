import Mathlib
import Stencil.Config

/-!
When two data are the same key. Numbers are compared by what they are worth, however they are
written. Hence to be the same key is an equivalence among all data that files can hold.
-/

set_option autoImplicit false

namespace Stencil.Decimal

-- Powers are those of the core library, as in the readings of floating point numbers.
attribute [local instance (2000)] instPowNat

/-! ### Floating point numbers by their bits -/

/-- The least positive floating point number is two to the power of minus this. -/
def fineness : Nat := 1074

/-- What the bits of a number with a sign and a magnitude tell. -/
structure Reading.Parts (bits : Nat) (negative : Bool) (binary : Binary) : Prop where
  positive : 0 < binary.mantissa
  below : binary.mantissa < 2 ^ (53 : Nat)
  least : -fineness ≤ binary.exponent
  full : binary.exponent = -fineness ∨ 2 ^ (52 : Nat) ≤ binary.mantissa
  whole : (bits : Int) = (if negative then 2 ^ (63 : Nat) else 0 : Nat) +
    (binary.exponent + fineness) * 2 ^ (52 : Nat) + binary.mantissa

section Bits

variable {bits others : Nat} {negative sign : Bool} {binary other : Binary}

/-- The highest of the bits is the sign. -/
theorem Reading.sign_eq (within : bits < 2 ^ (64 : Nat)) :
    (if bits / 2 ^ (63 : Nat) % 2 == 1 then 2 ^ (63 : Nat) else 0) =
      bits / 2 ^ (63 : Nat) * 2 ^ (63 : Nat) := by
  split
  next set =>
    have one := eq_of_beq set
    omega
  next unset =>
    rw [beq_iff_eq] at unset
    omega

theorem Reading.bits_of_zero (within : bits < 2 ^ (64 : Nat))
    (read : ofBits bits = .zero negative) : bits = if negative then 2 ^ (63 : Nat) else 0 := by
  rw [ofBits] at read
  split at read
  next => split at read <;> cases read
  next =>
    split at read
    next =>
      split at read
      next =>
        cases read
        rw [sign_eq within]
        omega
      next => cases read
    next => cases read

theorem Reading.bits_of_infinite (within : bits < 2 ^ (64 : Nat))
    (read : ofBits bits = .infinite negative) :
    bits = (if negative then 2 ^ (63 : Nat) else 0) + 2047 * 2 ^ (52 : Nat) := by
  rw [ofBits] at read
  split at read
  next =>
    split at read
    next =>
      cases read
      rw [sign_eq within]
      omega
    next => cases read
  next => split at read <;> [split at read; skip] <;> cases read

theorem Reading.parts_of_finite (within : bits < 2 ^ (64 : Nat))
    (read : ofBits bits = .finite negative binary) : Parts bits negative binary := by
  rw [ofBits] at read
  split at read
  next => split at read <;> cases read
  next below =>
    split at read
    next zero =>
      split at read
      next => cases read
      next fraction =>
        cases read
        constructor <;> simp only [fineness]
        case whole =>
          rw [sign_eq within]
          omega
        all_goals omega
    next =>
      cases read
      constructor <;> simp only [fineness]
      case whole =>
        rw [sign_eq within]
        omega
      all_goals omega

/-- How many of the least positive numbers make up a magnitude. -/
def Binary.units (binary : Binary) : Nat :=
  binary.mantissa * 2 ^ (binary.exponent + fineness).toNat

theorem Reading.Parts.units_pos (parts : Parts bits negative binary) : 0 < binary.units :=
  Nat.mul_pos parts.positive (Nat.pow_pos (by decide))

/-- Of two magnitudes that are the same, neither has the greater exponent: its mantissa would be full
and the other one twice as long. -/
theorem Reading.Parts.exponent_le (first : Parts bits negative binary)
    (second : Parts others sign other) (same : binary.units = other.units) :
    other.exponent ≤ binary.exponent := by
  by_contra less
  have least := first.least
  obtain ⟨more, apart⟩ : ∃ more, (other.exponent + fineness).toNat =
      more + 1 + (binary.exponent + fineness).toNat :=
    ⟨(other.exponent - binary.exponent - 1).toNat, by omega⟩
  have full := second.full.resolve_left (by omega)
  rw [Binary.units, Binary.units, apart, Nat.pow_add, ← Nat.mul_assoc] at same
  have shifted := Nat.eq_of_mul_eq_mul_right (Nat.pow_pos (by decide)) same
  have below := first.below
  have twice : 2 ≤ 2 ^ (more + 1) := Nat.le_self_pow (Nat.succ_ne_zero more) 2
  have grown := Nat.mul_le_mul_left other.mantissa twice
  omega

theorem Reading.Parts.bits_eq (first : Parts bits negative binary)
    (second : Parts others negative other) (same : binary.units = other.units) : bits = others := by
  have exponent : binary.exponent = other.exponent :=
    Int.le_antisymm (second.exponent_le first same.symm) (first.exponent_le second same)
  rw [Binary.units, Binary.units, exponent] at same
  have mantissa := Nat.eq_of_mul_eq_mul_right (Nat.pow_pos (by decide)) same
  have one := first.whole
  have two := second.whole
  rw [exponent, mantissa] at one
  omega

end Bits

/-! ### What numbers are worth -/

/-- How many of the least positive floating point numbers a number is worth, unless it is infinite or no
number at all. -/
inductive Worth where
  | units (count : Int)
  | infinite (negative : Bool)
  | notANumber
deriving DecidableEq

def signed (negative : Bool) (binary : Binary) : Int :=
  if negative then -binary.units else binary.units

def Reading.worth : Reading → Worth
  | notANumber => .notANumber
  | infinite negative => .infinite negative
  | zero _ => .units 0
  | finite negative binary => .units (signed negative binary)

def worthOf (value : Float) : Worth := (Reading.ofFloat value).worth

def worthOfInteger (value : Int) : Worth := .units (value * 2 ^ fineness)

theorem worthOfInteger_eq_iff {left right : Int} :
    worthOfInteger left = worthOfInteger right ↔ left = right := by
  rw [worthOfInteger, worthOfInteger, Worth.units.injEq,
    Int.mul_eq_mul_right_iff (Int.pow_ne_zero (by decide))]

section Worths

variable {value : Int} {one other : Float} {negative sign : Bool} {binary more : Binary}

theorem parts_of_ofFloat (read : Reading.ofFloat one = .finite negative binary) :
    Reading.Parts one.toBits.toNat negative binary :=
  Reading.parts_of_finite one.toBits.toNat_lt read

theorem signed_eq (negative : Bool) (binary : Binary) : signed negative binary =
    (if negative then -(binary.mantissa : Int) else binary.mantissa) *
      2 ^ (binary.exponent + fineness).toNat := by
  cases negative <;> simp [signed, Binary.units]

theorem signed_ne_zero (read : Reading.ofFloat one = .finite negative binary) :
    signed negative binary ≠ 0 := by
  have positive := (parts_of_ofFloat read).units_pos
  cases negative <;> simp [signed] <;> omega

/-- Comparing with an integer is exact. -/
theorem compareInteger_eq_iff :
    compareInteger value one = some .eq ↔ worthOfInteger value = worthOf one := by
  rw [compareInteger, worthOf, worthOfInteger]
  cases read : Reading.ofFloat one with
  | notANumber => simp [Reading.worth]
  | infinite negative => cases negative <;> simp [Reading.worth]
  | zero negative =>
    have scale : (2 : Int) ^ fineness ≠ 0 := Int.pow_ne_zero (by decide)
    simp only [Reading.worth, Option.some.injEq, Std.LawfulEqCmp.compare_eq_iff_eq,
      Worth.units.injEq, Int.mul_eq_zero, or_iff_left scale]
  | finite negative binary =>
    have least := (parts_of_ofFloat read).least
    simp only [Reading.worth, signed_eq, Worth.units.injEq]
    generalize (if negative then -(binary.mantissa : Int) else binary.mantissa) = mantissa
    split
    next small =>
      have sum : binary.exponent.natAbs + (binary.exponent + fineness).toNat = fineness := by omega
      have scale : (2 : Int) ^ (binary.exponent + fineness).toNat ≠ 0 := Int.pow_ne_zero (by decide)
      have whole := Int.pow_add (a := 2) binary.exponent.natAbs (binary.exponent + fineness).toNat
      rw [sum] at whole
      rw [Option.some.injEq, Std.LawfulEqCmp.compare_eq_iff_eq, whole, ← Int.mul_assoc,
        Int.mul_eq_mul_right_iff scale]
    next =>
      have sum : (binary.exponent + fineness).toNat = binary.exponent.natAbs + fineness := by omega
      have scale : (2 : Int) ^ fineness ≠ 0 := Int.pow_ne_zero (by decide)
      rw [Option.some.injEq, Std.LawfulEqCmp.compare_eq_iff_eq, sum, Int.pow_add, ← Int.mul_assoc,
        Int.mul_eq_mul_right_iff scale]

theorem eq_of_bits (same : one.toBits.toNat = other.toBits.toNat) : one = other :=
  Float.toBits_inj.mp (UInt64.toNat_inj.mp same)

theorem eq_zero_of_reading (read : Reading.ofFloat one = .zero negative) : one = 0 ∨ one = -0 := by
  have bits := Reading.bits_of_zero one.toBits.toNat_lt read
  cases negative with
  | false => exact .inl (eq_of_bits (bits.trans (by decide)))
  | true => exact .inr (eq_of_bits (bits.trans (by decide)))

theorem eq_of_infinite (first : Reading.ofFloat one = .infinite negative)
    (second : Reading.ofFloat other = .infinite negative) : one = other :=
  eq_of_bits ((Reading.bits_of_infinite one.toBits.toNat_lt first).trans
    (Reading.bits_of_infinite other.toBits.toNat_lt second).symm)

theorem eq_of_finite (first : Reading.ofFloat one = .finite negative binary)
    (second : Reading.ofFloat other = .finite sign more)
    (same : signed negative binary = signed sign more) : one = other := by
  have parts := parts_of_ofFloat first
  have others := parts_of_ofFloat second
  have positive := parts.units_pos
  have larger := others.units_pos
  obtain rfl : negative = sign := by
    cases negative <;> cases sign <;> simp [signed] at same ⊢ <;> omega
  refine eq_of_bits (parts.bits_eq others ?_)
  cases negative <;> simp [signed] at same <;> omega

/-- Of all bits that tell no number only one choice is in use. -/
theorem eq_nan_of_reading (read : Reading.ofFloat one = .notANumber) : one = Float.nan := by
  have bits : one.toModel.toBits.toBitVec.toNat = one.toBits.toNat := rfl
  rw [Reading.ofFloat, Reading.ofBits] at read
  split at read
  next exponent =>
    split at read
    next => cases read
    next fraction =>
      refine Float.toBits_inj.mp (UInt64.toBitVec_inj.mp (one.toModel.valid.eq_packedNaN ?_ ?_))
      · refine BitVec.eq_of_toNat_eq ?_
        rw [Float.Model.UnpackedFloat.unpackExponent_def]
        simpa [bits, Nat.shiftRight_eq_div_pow] using exponent
      · intro none
        have empty := congrArg BitVec.toNat none
        rw [Float.Model.UnpackedFloat.unpackMantissa_def] at empty
        exact fraction (by simpa [bits] using empty)
  next => split at read <;> [split at read; skip] <;> cases read

/-- Only the two zeros are worth the same without being the same. -/
theorem eq_of_worthOf (same : worthOf one = worthOf other) :
    one = other ∨ (one = 0 ∨ one = -0) ∧ (other = 0 ∨ other = -0) := by
  rw [worthOf, worthOf] at same
  cases first : Reading.ofFloat one <;> cases second : Reading.ofFloat other <;>
    rw [first, second] at same
  case notANumber.notANumber =>
    exact .inl ((eq_nan_of_reading first).trans (eq_nan_of_reading second).symm)
  case infinite.infinite =>
    cases same
    exact .inl (eq_of_infinite first second)
  case zero.zero => exact .inr ⟨eq_zero_of_reading first, eq_zero_of_reading second⟩
  case zero.finite => exact absurd (Worth.units.inj same).symm (signed_ne_zero second)
  case finite.zero => exact absurd (Worth.units.inj same) (signed_ne_zero first)
  case finite.finite => exact .inl (eq_of_finite first second (Worth.units.inj same))
  all_goals cases same

theorem isNaN_iff : one.isNaN = true ↔ one = Float.nan := by
  rw [Float.isNaN_eq_decide_eq_nan, decide_eq_true_eq]

theorem beq_or_isNaN_iff :
    (one == other || one.isNaN && other.isNaN) = true ↔ worthOf one = worthOf other := by
  have zeros : worthOf 0 = worthOf (-0) := by decide
  rw [Bool.or_eq_true, Bool.and_eq_true, isNaN_iff, isNaN_iff]
  constructor
  · rw [Float.beq_iff_ne_nan_and_eq]
    rintro (⟨-, -, rfl | ⟨rfl, rfl⟩ | ⟨rfl, rfl⟩⟩ | ⟨rfl, rfl⟩)
    · rfl
    · exact zeros
    · exact zeros.symm
    · rfl
  · intro same
    obtain rfl | ⟨rfl | rfl, rfl | rfl⟩ := eq_of_worthOf same
    · by_cases none : one = Float.nan
      next => exact .inr ⟨none, none⟩
      next => exact .inl (Float.beq_self_iff.mpr none)
    all_goals exact .inl (by decide)

end Worths

end Stencil.Decimal

/-! ### When two data are the same key -/

namespace Stencil.Datum

open Decimal

/-- What makes a key the key that it is. Moments with a zone are told apart from those without. -/
inductive Identity where
  | nothing
  | ellipsis
  | text (value : Text)
  | points (value : Points)
  | bytes (value : List UInt8)
  | tuple (parts : List Identity)
  | date (value : Date)
  | moment (placed : Bool) (instant : Int)
  | number (worth : Worth)

/-- What a number that is not complex is worth. -/
def worth? : Datum → Option Worth
  | bool value => some (worthOfInteger (if value then 1 else 0))
  | integer value => some (worthOfInteger value)
  | real value => some (worthOf value)
  | _ => Option.none

mutual

def identity? : Datum → Option Identity
  | none => some .nothing
  | ellipsis => some .ellipsis
  | text value => some (.text value)
  | points value => some (.points value)
  | bytes value => some (.bytes value)
  | tuple items => (identities? items).map .tuple
  | date value => some (.date value)
  | moment value => some (.moment value.zone.isSome (value.counted (value.zone.getD 0)))
  | value => value.worth?.map .number

def identities? : List Datum → Option (List Identity)
  | [] => some []
  | item :: rest =>
    match item.identity?, identities? rest with
    | some first, some others => some (first :: others)
    | _, _ => Option.none

end

def Keyed.Distinct {α : Type} (entries : Keyed α) : Prop :=
  entries.Pairwise fun one other => one.1.sameKey other.1 = false

mutual

/-- Data as files hold them: no number is complex, and no mapping binds a key twice. -/
def Proper : Datum → Prop
  | complex _ _ => False
  | list items => AreProper items
  | tuple items => AreProper items
  | set items => AreProper items
  | dict entries => Keyed.Distinct entries ∧ AreProperEntries entries
  | _ => True

def AreProper : List Datum → Prop
  | [] => True
  | item :: rest => item.Proper ∧ AreProper rest

def AreProperEntries : List (Datum × Datum) → Prop
  | [] => True
  | (key, value) :: rest => (key.Proper ∧ value.Proper) ∧ AreProperEntries rest

end

theorem isSame_iff {one other : Moment} : one.isSame other = true ↔
    one.zone.isSome = other.zone.isSome ∧
      one.counted (one.zone.getD 0) = other.counted (other.zone.getD 0) := by
  rw [Moment.isSame, beq_iff_eq, Moment.compare?]
  cases here : one.zone <;> cases there : other.zone
  case none.none =>
    rw [Option.some.injEq, Std.LawfulEqCmp.compare_eq_iff_eq]
    exact (and_iff_right rfl).symm
  case some.some =>
    rw [Option.some.injEq, Std.LawfulEqCmp.compare_eq_iff_eq]
    exact (and_iff_right rfl).symm
  all_goals simp

theorem identities?_cons {item : Datum} {rest : List Datum} {parts : List Identity} :
    identities? (item :: rest) = some parts ↔ ∃ first others, item.identity? = some first ∧
      identities? rest = some others ∧ parts = first :: others := by
  rw [identities?]
  cases item.identity? <;> cases identities? rest <;> simp [eq_comm]

/-- Which data have an identity. -/
def Identity.Of (value : Datum) : Identity → Prop
  | .nothing => value = .none
  | .ellipsis => value = .ellipsis
  | .text content => value = .text content
  | .points content => value = .points content
  | .bytes content => value = .bytes content
  | .tuple parts => ∃ items, value = .tuple items ∧ identities? items = some parts
  | .date day => value = .date day
  | .moment placed instant => ∃ moment, value = .moment moment ∧ moment.zone.isSome = placed ∧
      moment.counted (moment.zone.getD 0) = instant
  | .number worth => value.worth? = some worth

theorem of_identity? {value : Datum} {identity : Identity}
    (found : value.identity? = some identity) : identity.Of value := by
  cases value <;> simp only [identity?, worth?, Option.map_none, Option.map_some, Option.some.injEq,
    Option.map_eq_some_iff, reduceCtorEq] at found
  case tuple items =>
    obtain ⟨parts, found, rfl⟩ := found
    exact ⟨items, rfl, found⟩
  case moment => exact found ▸ ⟨_, rfl, rfl, rfl⟩
  all_goals exact found ▸ rfl

theorem identity?_of_worth? {value : Datum} {worth : Worth} (found : value.worth? = some worth) :
    value.identity? = some (.number worth) := by
  cases value <;> simp_all [worth?, identity?]

theorem worth?_of_integer? {value : Datum} {whole : Int} (found : value.integer? = some whole) :
    value.worth? = some (worthOfInteger whole) := by
  cases value <;> simp_all [worth?, integer?]

theorem worth?_cases {value : Datum} {worth : Worth} (found : value.worth? = some worth) :
    (∃ whole, value.integer? = some whole ∧ worth = worthOfInteger whole) ∨
      ∃ number, value = .real number ∧ worth = worthOf number := by
  cases value <;> cases found
  case real => exact .inr ⟨_, rfl, rfl⟩
  all_goals exact .inl ⟨_, rfl, rfl⟩

theorem worth?_of_sameNumber {left right : Datum} (one : left.Proper) (other : right.Proper)
    (same : left.sameNumber right = true)
    (apart : ∀ a b, left = .real a → right = .real b → False) :
    ∃ worth, left.worth? = some worth ∧ right.worth? = some worth := by
  rw [sameNumber.eq_def] at same
  split at same
  next first second =>
    obtain rfl := eq_of_beq same
    exact ⟨_, worth?_of_integer? first, worth?_of_integer? second⟩
  next first _ =>
    have equal := compareInteger_eq_iff.mp (eq_of_beq same)
    exact ⟨_, worth?_of_integer? first, congrArg some equal.symm⟩
  next second =>
    have equal := compareInteger_eq_iff.mp (eq_of_beq same)
    exact ⟨_, congrArg some equal.symm, worth?_of_integer? second⟩
  next => exact (apart _ _ rfl rfl).elim
  next => exact one.elim
  next => exact other.elim
  next => exact one.elim
  next => cases same

mutual

theorem identity?_of_sameKey : ∀ {left right : Datum}, left.Proper → right.Proper →
    left.sameKey right = true →
      ∃ identity, left.identity? = some identity ∧ right.identity? = some identity := by
  intro left right one other same
  rw [sameKey.eq_def] at same
  split at same
  next => exact ⟨_, rfl, rfl⟩
  next => exact ⟨_, rfl, rfl⟩
  next => exact ⟨_, rfl, eq_of_beq same ▸ rfl⟩
  next => exact ⟨_, rfl, eq_of_beq same ▸ rfl⟩
  next => exact ⟨_, rfl, eq_of_beq same ▸ rfl⟩
  next left right =>
    obtain ⟨parts, first, second⟩ := identities?_of_sameKeys one other same
    exact ⟨.tuple parts, by rw [identity?, first]; rfl, by rw [identity?, second]; rfl⟩
  next => exact ⟨_, rfl, eq_of_beq same ▸ rfl⟩
  next left right =>
    obtain ⟨placed, instant⟩ := isSame_iff.mp same
    exact ⟨_, rfl, by rw [identity?, placed, instant]⟩
  next a b =>
    have equal := beq_or_isNaN_iff.mp same
    exact ⟨_, identity?_of_worth? rfl, identity?_of_worth? (congrArg some equal.symm)⟩
  next left right _ _ _ _ _ _ _ _ apart =>
    obtain ⟨worth, first, second⟩ := worth?_of_sameNumber one other same apart
    exact ⟨.number worth, identity?_of_worth? first, identity?_of_worth? second⟩

theorem identities?_of_sameKeys : ∀ {left right : List Datum}, AreProper left → AreProper right →
    sameKeys left right = true →
      ∃ parts, identities? left = some parts ∧ identities? right = some parts
  | [], [], _, _, _ => ⟨[], rfl, rfl⟩
  | [], _ :: _, _, _, same => nomatch same
  | _ :: _, [], _, _, same => nomatch same
  | _ :: _, _ :: _, ⟨proper, more⟩, ⟨fit, others⟩, same => by
    rw [sameKeys, Bool.and_eq_true] at same
    obtain ⟨part, first, second⟩ := identity?_of_sameKey proper fit same.1
    obtain ⟨parts, firsts, seconds⟩ := identities?_of_sameKeys more others same.2
    exact ⟨part :: parts, identities?_cons.mpr ⟨part, parts, first, firsts, rfl⟩,
      identities?_cons.mpr ⟨part, parts, second, seconds, rfl⟩⟩

end

theorem sameKey_of_integer? {left right : Datum} {whole : Int}
    (found : left.integer? = some whole) : left.sameKey right = left.sameNumber right := by
  cases left <;> cases found <;> cases right <;> rfl

theorem sameKey_of_integer?' {left right : Datum} {whole : Int}
    (found : right.integer? = some whole) : left.sameKey right = left.sameNumber right := by
  cases right <;> cases found <;> cases left <;> rfl

theorem sameKey_of_worth? {left right : Datum} {worth : Worth} (one : left.worth? = some worth)
    (other : right.worth? = some worth) : left.sameKey right = true := by
  obtain ⟨whole, first, rfl⟩ | ⟨number, rfl, rfl⟩ := worth?_cases one <;>
    obtain ⟨more, second, same⟩ | ⟨another, rfl, same⟩ := worth?_cases other
  next =>
    rw [sameKey_of_integer? first, sameNumber.eq_def, first, second]
    exact beq_iff_eq.mpr (worthOfInteger_eq_iff.mp same)
  next =>
    rw [sameKey_of_integer? first, sameNumber.eq_def, first]
    exact beq_iff_eq.mpr (compareInteger_eq_iff.mpr same)
  next =>
    rw [sameKey_of_integer?' second, sameNumber.eq_def, second]
    exact beq_iff_eq.mpr (compareInteger_eq_iff.mpr same.symm)
  next =>
    rw [sameKey]
    exact beq_or_isNaN_iff.mpr same

mutual

theorem sameKey_of_identity? : ∀ {left right : Datum} {identity : Identity},
    left.identity? = some identity → right.identity? = some identity →
      left.sameKey right = true := by
  intro left right identity first second
  have one := of_identity? first
  have other := of_identity? second
  cases identity with
  | nothing => cases one; cases other; rw [sameKey]
  | ellipsis => cases one; cases other; rw [sameKey]
  | text content => cases one; cases other; rw [sameKey, beq_self_eq_true]
  | points content => cases one; cases other; rw [sameKey, beq_self_eq_true]
  | bytes content => cases one; cases other; rw [sameKey, beq_self_eq_true]
  | date day => cases one; cases other; rw [sameKey, beq_self_eq_true]
  | tuple parts =>
    obtain ⟨items, rfl, firsts⟩ := one
    obtain ⟨others, rfl, seconds⟩ := other
    rw [sameKey]
    exact sameKeys_of_identities? firsts seconds
  | moment placed instant =>
    obtain ⟨here, rfl, rfl, rfl⟩ := one
    obtain ⟨there, rfl, also, instant⟩ := other
    rw [sameKey]
    exact isSame_iff.mpr ⟨also.symm, instant.symm⟩
  | number worth => exact sameKey_of_worth? one other

theorem sameKeys_of_identities? : ∀ {left right : List Datum} {parts : List Identity},
    identities? left = some parts → identities? right = some parts → sameKeys left right = true
  | [], [], _, _, _ => rfl
  | [], _ :: _, _, first, second => by
    obtain ⟨_, _, -, -, rfl⟩ := identities?_cons.mp second
    cases first
  | _ :: _, [], _, first, second => by
    obtain ⟨_, _, -, -, rfl⟩ := identities?_cons.mp first
    cases second
  | _ :: _, _ :: _, _, first, second => by
    obtain ⟨part, parts, one, ones, rfl⟩ := identities?_cons.mp first
    obtain ⟨_, _, other, others, same⟩ := identities?_cons.mp second
    cases same
    rw [sameKeys, Bool.and_eq_true]
    exact ⟨sameKey_of_identity? one other, sameKeys_of_identities? ones others⟩

end

section

variable {one other third : Datum}

theorem sameKey_comm (proper : one.Proper) (fit : other.Proper) :
    one.sameKey other = other.sameKey one := by
  rw [Bool.eq_iff_iff]
  constructor
  · intro same
    obtain ⟨_, first, second⟩ := identity?_of_sameKey proper fit same
    exact sameKey_of_identity? second first
  · intro same
    obtain ⟨_, first, second⟩ := identity?_of_sameKey fit proper same
    exact sameKey_of_identity? second first

end

theorem areProper_iff {items : List Datum} : AreProper items ↔ ∀ item ∈ items, item.Proper := by
  induction items with
  | nil => simp [AreProper]
  | cons item rest ih => rw [AreProper, ih, List.forall_mem_cons]

theorem areProperEntries_iff {entries : Entries} :
    AreProperEntries entries ↔ ∀ entry ∈ entries, entry.1.Proper ∧ entry.2.Proper := by
  induction entries with
  | nil => simp [AreProperEntries]
  | cons entry rest ih => rw [AreProperEntries, ih, List.forall_mem_cons]

end Stencil.Datum
