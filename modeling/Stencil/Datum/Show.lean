import Stencil.Datum.Basic
import Stencil.Text.Point

/-!
Data as text: as the value itself is shown, and as it is shown within other data, where text is
quoted.
-/

set_option autoImplicit false

namespace Stencil.Datum

/-- Magnitudes up to this one are written without an exponent. -/
def positionalBelow : Int := 16

/-- Magnitudes down to this one are written without an exponent. -/
def positionalFrom : Int := -3

/-- Digits with a decimal point behind the first `point` of them. -/
def positional (digits : Text) (point : Int) (whole : Text) : Text :=
  if point ≤ 0 then
    '0' :: '.' :: (List.replicate point.natAbs '0' ++ digits)
  else if point < digits.length then
    digits.take point.toNat ++ '.' :: digits.drop point.toNat
  else digits ++ List.replicate (point.toNat - digits.length) '0' ++ whole

def scientific (digits : Text) (exponent : Int) : Text :=
  let mantissa := match digits with
    | [] => []
    | [digit] => [digit]
    | digit :: rest => digit :: '.' :: rest
  let sign := if exponent < 0 then '-' else '+'
  mantissa ++ 'e' :: sign :: Text.padded 2 exponent.natAbs

/-- A positive number in the fewest digits that read back. A whole number ends as is given. -/
def magnitudeText (binary : Decimal.Binary) (whole : Text) : Text :=
  let decimal := Decimal.shortest binary
  let digits := Text.decimal decimal.digits
  let point := decimal.magnitude
  if positionalFrom ≤ point ∧ point ≤ positionalBelow then positional digits point whole
  else scientific digits (point - 1)

def signText (negative : Bool) : Text := if negative then ['-'] else []

def realTextEnding (whole : Text) (value : Float) : Text :=
  match Decimal.Reading.ofFloat value with
  | .notANumber => "nan".toList
  | .infinite negative => signText negative ++ "inf".toList
  | .zero negative => signText negative ++ '0' :: whole
  | .finite negative binary => signText negative ++ magnitudeText binary whole

/-- A real number; one that is whole shows a zero behind its point. -/
def realText (value : Float) : Text := realTextEnding ['.', '0'] value

def complexText (real imaginary : Float) : Text :=
  let part := realTextEnding []
  if Decimal.Reading.ofFloat real = .zero false then part imaginary ++ ['j']
  else
    let second := part imaginary
    let sign := if second.head? == some '-' then [] else ['+']
    '(' :: part real ++ sign ++ second ++ ['j', ')']

def byteText (quote : Char) (byte : UInt8) : Text :=
  let c := Char.ofNat byte.toNat
  if c == quote || c == '\\' then ['\\', c]
  else if c == '\n' then ['\\', 'n']
  else if c == '\r' then ['\\', 'r']
  else if c == '\t' then ['\\', 't']
  else if 32 ≤ byte.toNat ∧ byte.toNat < 127 then [c]
  else '\\' :: 'x' :: Text.hex 2 byte.toNat

def bytesText (bytes : List UInt8) : Text :=
  let quote := Text.quoteFor (bytes.map fun byte => Char.ofNat byte.toNat)
  'b' :: quote :: bytes.flatMap (byteText quote) ++ [quote]

def dateText (date : Date) : Text :=
  Text.padded 4 date.year ++ '-' :: Text.padded 2 date.month ++ '-' :: Text.padded 2 date.day

def zoneText (minutes : Int) : Text :=
  (if minutes < 0 then '-' else '+') :: Text.padded 2 (minutes.natAbs / 60) ++
    ':' :: Text.padded 2 (minutes.natAbs % 60)

def momentText (moment : Moment) : Text :=
  dateText moment.date ++ ' ' :: Text.padded 2 moment.hour ++ ':' :: Text.padded 2 moment.minute ++
    ':' :: Text.padded 2 moment.second ++
    (if moment.microsecond = 0 then [] else '.' :: Text.padded 6 moment.microsecond) ++
    (moment.zone.map zoneText).getD []

def arguments (values : List Nat) : Text :=
  Text.join ", ".toList (values.map Text.decimal)

def dateCall (date : Date) : Text :=
  "datetime.date(".toList ++ arguments [date.year, date.month, date.day] ++ [')']

def zoneCall (minutes : Int) : Text :=
  if minutes = 0 then "datetime.timezone.utc".toList
  else
    let days := minutes.fdiv 1440
    let seconds := minutes.fmod 1440 * 60
    let parts := (if days = 0 then [] else ["days=".toList ++ Text.signed days]) ++
      (if seconds = 0 then [] else ["seconds=".toList ++ Text.signed seconds])
    "datetime.timezone(datetime.timedelta(".toList ++ Text.join ", ".toList parts ++ "))".toList

def momentCall (moment : Moment) : Text :=
  let fields := [moment.date.year, moment.date.month, moment.date.day, moment.hour,
    moment.minute]
  let seconds :=
    if moment.microsecond ≠ 0 then [moment.second, moment.microsecond]
    else if moment.second ≠ 0 then [moment.second] else []
  "datetime.datetime(".toList ++ arguments (fields ++ seconds) ++
    (match moment.zone with
      | some minutes => ", tzinfo=".toList ++ zoneCall minutes
      | Option.none => []) ++ [')']

mutual

/-- A datum as it is shown within other data. -/
def shown : Datum → Text
  | none => "None".toList
  | bool true => "True".toList
  | bool false => "False".toList
  | integer value => Text.signed value
  | real value => realText value
  | complex a b => complexText a b
  | ellipsis => "Ellipsis".toList
  | text value => Text.quoted value
  | points value => value.quoted
  | bytes value => bytesText value
  | list items => '[' :: Text.join ", ".toList (shownAll items) ++ [']']
  | tuple [item] => '(' :: shown item ++ [',', ')']
  | tuple items => '(' :: Text.join ", ".toList (shownAll items) ++ [')']
  | set [] => "set()".toList
  | set items => '{' :: Text.join ", ".toList (shownAll items) ++ ['}']
  | dict entries => '{' :: Text.join ", ".toList (shownEntries entries) ++ ['}']
  | around isList => if isList then "[...]".toList else "\x7b...\x7d".toList
  | date value => dateCall value
  | moment value => momentCall value

def shownAll : List Datum → List Text
  | [] => []
  | item :: rest => shown item :: shownAll rest

def shownEntries : List (Datum × Datum) → List Text
  | [] => []
  | (key, value) :: rest => (shown key ++ ": ".toList ++ shown value) :: shownEntries rest

end

/-- A datum as it is shown by itself. -/
def display : Datum → Text
  | text value => value
  | points value => value.map Point.shown
  | date value => dateText value
  | moment value => momentText value
  | other => shown other

end Stencil.Datum
