import Stencil.Text.Decomposition

/-!
The composed form of a text: every character is taken apart, accents are put in order, and what
fits together is put together again. Texts that differ in appearance only have one composed form.
-/

set_option autoImplicit false

namespace Stencil.Text

/-- The syllables of the Korean script lie in a block, by first letter, vowel and last letter. -/
structure Syllable where
  first : Nat
  vowel : Nat
  last : Nat

namespace Syllable

def firsts : Nat := 19
def vowels : Nat := 21
def lasts : Nat := 28

def origin : Nat := 0xAC00
def firstOrigin : Nat := 0x1100
def vowelOrigin : Nat := 0x1161
def lastOrigin : Nat := 0x11A7

def code (syllable : Syllable) : Nat :=
  origin + (syllable.first * vowels + syllable.vowel) * lasts + syllable.last

def ofCode? (code : Nat) : Option Syllable :=
  if origin ≤ code ∧ code < origin + firsts * vowels * lasts then
    let place := code - origin
    some ⟨place / lasts / vowels, place / lasts % vowels, place % lasts⟩
  else none

theorem code_ofCode? {number : Nat} {syllable : Syllable} (found : ofCode? number = some syllable) :
    syllable.code = number := by
  unfold ofCode? at found
  split at found
  next inside =>
    cases found
    simp only [code, lasts, vowels]
    have outer := Nat.div_add_mod ((number - origin) / 28) 21
    have inner := Nat.div_add_mod (number - origin) 28
    have start := inside.1
    omega
  next => cases found

/-- A syllable without last letter has the last letter zero. -/
def letters (syllable : Syllable) : List Nat :=
  let both := [firstOrigin + syllable.first, vowelOrigin + syllable.vowel]
  if syllable.last = 0 then both else both ++ [lastOrigin + syllable.last]

def ofPair? (left right : Nat) : Option Nat :=
  if firstOrigin ≤ left ∧ left < firstOrigin + firsts ∧
      vowelOrigin ≤ right ∧ right < vowelOrigin + vowels then
    some (code ⟨left - firstOrigin, right - vowelOrigin, 0⟩)
  else
    match ofCode? left with
    | some syllable =>
      -- A syllable takes one last letter.
      if syllable.last = 0 ∧ lastOrigin < right ∧ right < lastOrigin + lasts then
        some (left + (right - lastOrigin))
      else none
    | none => none

end Syllable

def parts? (code : Nat) : Option (List Nat) :=
  match Syllable.ofCode? code with
  | some syllable => some syllable.letters
  | none =>
    (decompositions.find? fun run => run.covers code).map fun run =>
      run.values.map fun part => part + (code - run.first)

/-- Parts have parts of their own, and these once more. -/
def maximalDepth : Nat := 3

def expand : Nat → Nat → List Nat
  | 0, code => [code]
  | depth + 1, code =>
    match parts? code with
    | some parts => parts.flatMap (expand depth)
    | none => [code]

def combiningClass (code : Nat) : Nat :=
  ((combiningClasses.find? fun run => run.covers code).bind fun run => run.values.head?).getD 0

/-- Moves an accent behind those of a lower class. -/
def placeAccent (code : Nat) : List Nat → List Nat
  | [] => [code]
  | next :: rest =>
    if combiningClass next ≠ 0 ∧ combiningClass next < combiningClass code then
      next :: placeAccent code rest
    else code :: next :: rest

def orderAccents : List Nat → List Nat
  | [] => []
  | code :: rest => placeAccent code (orderAccents rest)

theorem perm_placeAccent (code : Nat) (codes : List Nat) :
    (placeAccent code codes).Perm (code :: codes) := by
  induction codes with
  | nil => exact .refl _
  | cons next rest ih =>
    rw [placeAccent]
    split
    next => exact (ih.cons next).trans (.swap code next rest)
    next => exact .refl _

theorem perm_orderAccents (codes : List Nat) : (orderAccents codes).Perm codes := by
  induction codes with
  | nil => exact .refl _
  | cons code rest ih => exact (perm_placeAccent code _).trans (ih.cons code)

def pair? (left right : Nat) : Option Nat :=
  match Syllable.ofPair? left right with
  | some code => some code
  | none =>
    (decompositions.find? fun run => run.marked && run.values == [left, right]).map (·.first)

/-- Joins each character with the last letter before it, unless an accent of its own class or a
higher one stands between them. The accents that stay apart are held in reverse. -/
def compose (letter : Nat) (apart : List Nat) : List Nat → List Nat
  | [] => letter :: apart.reverse
  | code :: rest =>
    -- Accents are in order, so the last one that stays apart has the highest class.
    let reached := apart.head?.all fun accent => combiningClass accent < combiningClass code
    match if reached then pair? letter code else none with
    | some whole => compose whole apart rest
    | none =>
      if combiningClass code = 0 then letter :: apart.reverse ++ compose code [] rest
      else compose letter (code :: apart) rest

def composedCodes : List Nat → List Nat
  | [] => []
  | letter :: rest => compose letter [] rest

/-- The composed form of a text. -/
def composed (text : Text) : Text :=
  if text.all fun c => c.toNat < 128 then text
  else
    let codes := text.flatMap fun c => expand maximalDepth c.toNat
    (composedCodes (orderAccents codes)).map Char.ofNat

theorem composed_of_ascii {text : Text} (ascii : ∀ c ∈ text, c.toNat < 128) :
    composed text = text := by
  have plain : (text.all fun c => decide (c.toNat < 128)) = true := by simpa using ascii
  rw [composed, if_pos plain]

end Stencil.Text
