import Stencil.Datum.Basic
import Stencil.Script.Number
import Stencil.Script.Spelled
import Stencil.Yaml.Token

/-!
Numbers as they are written in scalars: with underscores anywhere behind the first digit, in base
two, eight, ten or sixteen, or in parts of sixty. A scalar that is marked as a number may spell it in
more ways than one that is taken for a number because of how it is written.
-/

set_option autoImplicit false

namespace Stencil.Yaml

def isDigitOrLine (c : Char) : Bool := c.isDigit || c == '_'

def unsigned (text : Text) : Text :=
  match text with
  | '+' :: rest => rest
  | '-' :: rest => rest
  | rest => rest

/-- A part below sixty, with one or two digits. -/
def isSixtieth (text : Text) : Bool :=
  match text with
  | [a] => a.isDigit
  | [a, b] => a.isDigit && a.toNat < 54 && b.isDigit
  | _ => false

/-- Digits that begin with one of a class and go on with digits and underscores. -/
def isGrouped (first : Char → Bool) (text : Text) : Bool :=
  match text with
  | [] => false
  | c :: rest => first c && rest.all isDigitOrLine

def isNonzeroDigit (c : Char) : Bool := c.isDigit && c != '0'

def looksLikeInteger (text : Text) : Bool :=
  match unsigned text with
  | '0' :: 'b' :: rest => !rest.isEmpty && rest.all fun c => c == '0' || c == '1' || c == '_'
  | '0' :: 'x' :: rest =>
    !rest.isEmpty && rest.all fun c => Script.isDigitOf 16 c || c == '_'
  | ['0'] => true
  | '0' :: rest => rest.all fun c => Script.isDigitOf 8 c || c == '_'
  | digits =>
    match Text.splitAt ':' digits with
    | [] => false
    | first :: others => isGrouped isNonzeroDigit first && others.all isSixtieth

def isExponent (text : Text) : Bool :=
  match text with
  | [] => true
  | e :: sign :: digits =>
    (e == 'e' || e == 'E') && (sign == '+' || sign == '-') && !digits.isEmpty &&
      digits.all Char.isDigit
  | _ => false

/-- Digits behind a point, with an exponent or without. -/
def isFraction (text : Text) : Bool := isExponent (text.dropWhile isDigitOrLine)

def isWordOf (words : List String) (text : Text) : Bool := words.any (·.toList == text)

def looksLikeReal (text : Text) : Bool :=
  let body := unsigned text
  let whole := body.takeWhile (· != '.')
  match body.drop whole.length with
  | [] => false
  | _ :: behind =>
    isWordOf [".inf", ".Inf", ".INF"] body ||
      isWordOf [".nan", ".NaN", ".NAN"] text ||
      isGrouped Char.isDigit whole && isFraction behind ||
      whole.isEmpty && text == body && meets Char.isDigit behind && isFraction behind ||
      match Text.splitAt ':' whole with
      | first :: second :: others =>
        isGrouped Char.isDigit first && (second :: others).all isSixtieth &&
          behind.all isDigitOrLine
      | _ => false

def withoutLines (text : Text) : Text := text.filter (· != '_')

/-- An integer in a base, with a sign of its own. -/
def spelled (base : Nat) (text : Text) : Except Fault Int :=
  match Script.Spelled.integer? base text with
  | some value => .ok value
  | none => .error .unreadableValue

/-- Parts of sixty as one number. -/
def sixtieths (parts : List Int) : Int := parts.foldl (fun sum part => sum * 60 + part) 0

/-- The integer behind a sign. Digits that begin with a zero are in base eight. -/
def magnitudeOf (text : Text) : Except Fault Int :=
  match text with
  | [] => .error .emptyNumber
  | '0' :: 'b' :: rest => spelled 2 rest
  | '0' :: 'x' :: rest => spelled 16 rest
  | '0' :: rest => spelled 8 ('0' :: rest)
  | parts =>
    if parts.contains ':' then do
      return sixtieths (← (Text.splitAt ':' parts).mapM (spelled 10))
    else spelled 10 parts

/-- The integer that a scalar spells. -/
def integer (text : Text) : Except Fault Int := do
  let (negative, magnitude) := Script.Spelled.splitSign (withoutLines text)
  let value ← magnitudeOf magnitude
  return if negative then -value else value

def spelledReal (text : Text) : Except Fault Float :=
  match Script.Spelled.real? text with
  | some value => .ok value
  | none => .error .unreadableValue

/-- Parts of sixty that can be summed as real numbers: the next power of sixty is no such number. -/
def maximalParts : Nat := 174

/-- Parts of sixty as one number, summed from the last. -/
def realSixtieths (parts : List Float) : Except Fault Float :=
  if maximalParts < parts.length then .error .overflow
  else
    let (sum, _) := parts.reverse.foldl (fun (sum, base) part =>
      (sum + part * Float.ofInt base, base * 60)) ((0.0 : Float), (1 : Int))
    .ok sum

def realMagnitudeOf (text : Text) : Except Fault Float := do
  if text = ".inf".toList then return Script.Spelled.infinite
  else if text = ".nan".toList then return Script.Spelled.notNumber
  else if text.contains ':' then realSixtieths (← (Text.splitAt ':' text).mapM spelledReal)
  else spelledReal text

/-- The real number that a scalar spells. -/
def real (text : Text) : Except Fault Float := do
  let text := (withoutLines text).map Char.toLower
  if text.isEmpty then .error .emptyNumber
  let (negative, magnitude) := Script.Spelled.splitSign text
  let value ← realMagnitudeOf magnitude
  return if negative then -value else value

end Stencil.Yaml

/-!
Dates and points in time as they are written in scalars.
-/

namespace Stencil.Yaml

/-- The digits at the start of a text if there are at least and at most so many, and what comes
after them. As many are taken as there may be. -/
def scanDigitsBetween (least most : Nat) (text : Text) : Option (List Char × Text) :=
  let digits := (text.take most).takeWhile Char.isDigit
  if least ≤ digits.length then some (digits, text.drop digits.length) else none

structure Clock where
  hour : Nat
  minute : Nat
  second : Nat
  microsecond : Nat
  zone : Option Int
deriving DecidableEq, Repr

/-- The parts of a date or a point in time, in or out of range. -/
structure Written where
  year : Nat
  month : Nat
  day : Nat
  clock : Option Clock
  /-- Whether month and day have two digits each. -/
  full : Bool
deriving DecidableEq, Repr

def number (digits : List Char) : Nat := Script.digitsValue 10 digits

/-- Minutes that a zone is ahead, to the end of the text. -/
def zone? (text : Text) : Option (Option Int) :=
  match text.dropWhile isSpaceOrTab with
  | [] => if text.isEmpty then some none else none
  | ['Z'] => some (some 0)
  | sign :: rest => do
    guard (sign == '+' || sign == '-')
    let (hours, rest) ← scanDigitsBetween 1 2 rest
    let minutes : Nat ← match rest with
      | [] => pure 0
      | ':' :: rest => do
        let (minutes, rest) ← scanDigitsBetween 2 2 rest
        guard rest.isEmpty
        pure (number minutes)
      | _ => none
    let ahead : Int := number hours * 60 + minutes
    return some (if sign == '-' then -ahead else ahead)

/-- The first six digits behind the point of the seconds, filled with zeros. -/
def microseconds (digits : List Char) : Nat :=
  let six := digits.take 6
  number (six ++ List.replicate (6 - six.length) '0')

def clock? (text : Text) : Option Clock := do
  let rest ← match text with
    | 'T' :: rest => some rest
    | 't' :: rest => some rest
    | c :: rest => if isSpaceOrTab c then some (rest.dropWhile isSpaceOrTab) else none
    | [] => none
  let (hour, rest) ← scanDigitsBetween 1 2 rest
  let rest ← if rest.head? = some ':' then some (rest.drop 1) else none
  let (minute, rest) ← scanDigitsBetween 2 2 rest
  let rest ← if rest.head? = some ':' then some (rest.drop 1) else none
  let (second, rest) ← scanDigitsBetween 2 2 rest
  let (fraction, rest) := match rest with
    | '.' :: rest =>
      let digits := rest.takeWhile Char.isDigit
      (digits, rest.drop digits.length)
    | _ => ([], rest)
  let zone ← zone? rest
  return ⟨number hour, number minute, number second, microseconds fraction, zone⟩

def written? (text : Text) : Option Written := do
  let (year, rest) ← scanDigitsBetween 4 4 text
  let rest ← if rest.head? = some '-' then some (rest.drop 1) else none
  let (month, rest) ← scanDigitsBetween 1 2 rest
  let rest ← if rest.head? = some '-' then some (rest.drop 1) else none
  let (day, rest) ← scanDigitsBetween 1 2 rest
  let full := month.length == 2 && day.length == 2
  if rest.isEmpty then return ⟨number year, number month, number day, none, full⟩
  else return ⟨number year, number month, number day, some (← clock? rest), full⟩

/-- Whether a scalar is one of a date or a point in time without being marked as such. -/
def looksLikeMoment (text : Text) : Bool :=
  (written? text).any fun written => written.full || written.clock.isSome

/-- A zone is less than a day off. -/
def Clock.isTime (clock : Clock) : Bool :=
  clock.hour < 24 && clock.minute < 60 && clock.second < 60 &&
    clock.zone.all fun ahead => ahead.natAbs < 1440

def Written.datum (written : Written) : Except Fault Datum :=
  let date : Date := ⟨written.year, written.month, written.day⟩
  match written.clock with
  | none => if date.isValid then .ok (.date date) else .error .unreadableValue
  | some clock =>
    if date.isValid && clock.isTime then
      .ok (.moment ⟨date, clock.hour, clock.minute, clock.second, clock.microsecond, clock.zone⟩)
    else .error .unreadableValue

end Stencil.Yaml

/-!
Bytes written in base 64. Characters that have no value there are passed over.
-/

namespace Stencil.Yaml.Binary

def value? (c : Char) : Option Nat :=
  let code := c.toNat
  if 65 ≤ code ∧ code ≤ 90 then some (code - 65)
  else if 97 ≤ code ∧ code ≤ 122 then some (code - 71)
  else if 48 ≤ code ∧ code ≤ 57 then some (code + 4)
  else if c = '+' then some 62
  else if c = '/' then some 63
  else none

/-- The values up to the padding, if a padding that belongs to a group of four ends them. -/
def values (count pads : Nat) : Text → List Nat × Bool
  | [] => ([], false)
  | c :: rest =>
    if c = '=' then
      if count % 4 < 2 then values count pads rest
      else if 4 ≤ count % 4 + (pads + 1) then ([], true)
      else values count (pads + 1) rest
    else
      match value? c with
      | some value =>
        let (more, padded) := values (count + 1) 0 rest
        (value :: more, padded)
      | none => values count pads rest

def bytes : List Nat → List UInt8
  | a :: b :: c :: d :: rest =>
    UInt8.ofNat (a * 4 + b / 16) :: UInt8.ofNat (b % 16 * 16 + c / 4) ::
      UInt8.ofNat (c % 4 * 64 + d) :: bytes rest
  | [a, b, c] => [UInt8.ofNat (a * 4 + b / 16), UInt8.ofNat (b % 16 * 16 + c / 4)]
  | [a, b] => [UInt8.ofNat (a * 4 + b / 16)]
  | _ => []

def decode (text : Text) : Except Fault (List UInt8) :=
  if text.any fun c => 128 ≤ c.toNat then .error .malformed
  else
    let (found, padded) := values 0 0 text
    if padded || found.length % 4 == 0 then .ok (bytes found) else .error .malformed

end Stencil.Yaml.Binary
