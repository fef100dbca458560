import UsageForecast.Time.Instant
import UsageForecast.Decimal.Literal
import UsageForecast.Text.Blank
import UsageForecast.Json.Codec

/-!
# The text of instants

Instants are written in universal time with the fewest of 0, 3, 6 or 9
fraction digits that are exact.  They are read with any offset, in a strict
form and in one that allows blanks between its parts and short numbers.
-/

namespace UsageForecast.Timestamp

def padded (width value : Nat) : List Char :=
  let digits := Decimal.digitChars value
  List.replicate (width - digits.length) '0' ++ digits

/-- A year: four digits, signed where four digits do not reach. -/
def writeYear (year : Int) : List Char :=
  if 0 ≤ year ∧ year ≤ 9999 then padded 4 year.natAbs
  else (if year < 0 then '-' else '+') :: padded 4 year.natAbs

/-- The fraction of a second: nothing, or three, six or nine digits. -/
def writeFraction (nanoseconds : Nat) : List Char :=
  if nanoseconds = 0 then []
  else if nanoseconds % 1000000 = 0 then
    '.' :: padded 3 (nanoseconds / 1000000)
  else if nanoseconds % 1000 = 0 then '.' :: padded 6 (nanoseconds / 1000)
  else '.' :: padded 9 nanoseconds

/-- The text of an instant with a given spelling of the zone.  The second
sixty of a minute is a leap second. -/
def writeZoned (zone : List Char) (instant : Instant) : List Char :=
  let date := instant.date
  let second := instant.secondOfDay
  let leap := 1000000000 ≤ instant.nanoseconds
  let nanoseconds :=
    if leap then instant.nanoseconds - 1000000000 else instant.nanoseconds
  writeYear date.year ++ ['-'] ++ padded 2 date.month
    ++ ['-'] ++ padded 2 date.day
    ++ ['T'] ++ padded 2 (second / 3600)
    ++ [':'] ++ padded 2 (second / 60 % 60)
    ++ [':'] ++ padded 2 (second % 60 + if leap then 1 else 0)
    ++ writeFraction nanoseconds ++ zone

def write (instant : Instant) : String :=
  String.ofList (writeZoned ['Z'] instant)

def writeOffset (instant : Instant) : String :=
  String.ofList (writeZoned "+00:00".toList instant)

/-- The parts of a timestamp before they are checked against each other. -/
structure Parts where
  year : Int
  month : Nat
  day : Nat
  hour : Nat
  minute : Nat
  second : Nat
  nanoseconds : Nat
  offset : Int

/-- The instant of a timestamp, if its parts exist: a second of sixty is a
leap second, an offset is less than a day. -/
def Parts.instant? (parts : Parts) : Option Instant :=
  let date : Date := ⟨parts.year, parts.month, parts.day⟩
  let local? := date.isValid && parts.hour < 24 && parts.minute < 60
    && parts.second ≤ 60 && parts.offset.natAbs < 86400
  if local? then
    let leap := parts.second = 60
    let second := if leap then 59 else parts.second
    let clock := date.toDays * 86400
      + (parts.hour * 3600 + parts.minute * 60 + second : Nat)
    let nanoseconds := parts.nanoseconds + if leap then 1000000000 else 0
    if Instant.firstSecond ≤ clock ∧ clock ≤ Instant.lastSecond then
      Instant.ofSeconds? (clock - parts.offset) nanoseconds
    else
      none
  else
    none

/-- Digits, at least and at most a number of them, read as a number. -/
def takeNumber? (least most : Nat) (text : List Char) :
    Option (Nat × List Char) :=
  let digits := (text.take most).takeWhile Char.isDigit
  if digits.length < least then none
  else some (Decimal.readDigits 0 digits, text.drop digits.length)

def expect? (letter : Char) : List Char → Option (List Char)
  | [] => none
  | head :: rest => if head == letter then some rest else none

/-- A fraction of a second: up to nine digits count. -/
def takeFraction? : List Char → Option (Nat × List Char)
  | '.' :: rest =>
      let digits := rest.takeWhile Char.isDigit
      let counted := digits.take 9
      if digits.isEmpty then
        none
      else
        some
          (Decimal.readDigits 0 counted * Nat.pow 10 (9 - counted.length),
            rest.drop digits.length)
  | rest => some (0, rest)

def takeSeparator? : List Char → Option (List Char)
  | 'T' :: rest => some rest
  | 't' :: rest => some rest
  | ' ' :: rest => some rest
  | _ => none

/-- The sign of an offset; the typographic minus counts. -/
def takeOffsetSign? : List Char → Option (Bool × List Char)
  | '+' :: rest => some (false, rest)
  | '-' :: rest => some (true, rest)
  | '−' :: rest => some (true, rest)
  | _ => none

/-- An offset from universal time in seconds; `separator?` reads what stands
between its hours and minutes. -/
def takeOffset? (separator? : List Char → Option (List Char)) :
    List Char → Option (Int × List Char)
  | 'Z' :: rest => some (0, rest)
  | 'z' :: rest => some (0, rest)
  | text => do
      let (negative, rest) ← takeOffsetSign? text
      let (hours, rest) ← takeNumber? 2 2 rest
      let rest ← separator? rest
      let (minutes, rest) ← takeNumber? 2 2 rest
      if minutes < 60 then
        let seconds : Int := hours * 3600 + minutes * 60
        return (if negative then -seconds else seconds, rest)
      else
        none

/-- The strict form: every number has its full width and nothing stands
between the parts. -/
def parseStrict? (text : String) : Option Instant := do
  let (year, rest) ← takeNumber? 4 4 text.toList
  let rest ← expect? '-' rest
  let (month, rest) ← takeNumber? 2 2 rest
  let rest ← expect? '-' rest
  let (day, rest) ← takeNumber? 2 2 rest
  let rest ← takeSeparator? rest
  let (hour, rest) ← takeNumber? 2 2 rest
  let rest ← expect? ':' rest
  let (minute, rest) ← takeNumber? 2 2 rest
  let rest ← expect? ':' rest
  let (second, rest) ← takeNumber? 2 2 rest
  let (nanoseconds, rest) ← takeFraction? rest
  let (offset, rest) ← takeOffset? (expect? ':') rest
  if rest.isEmpty then
    Parts.instant?
      ⟨year, month, day, hour, minute, second, nanoseconds, offset⟩
  else
    none

/-- A year of up to four digits, or a signed one of any length. -/
def takeYear? (text : List Char) : Option (Int × List Char) :=
  match Text.trimStart text with
  | '-' :: rest => (takeNumber? 1 rest.length rest).map fun (year, rest) =>
      (-(year : Int), rest)
  | '+' :: rest => (takeNumber? 1 rest.length rest).map fun (year, rest) =>
      ((year : Int), rest)
  | rest => (takeNumber? 1 4 rest).map fun (year, rest) =>
      ((year : Int), rest)

/-- One or two digits after blanks. -/
def takeField? (text : List Char) : Option (Nat × List Char) :=
  takeNumber? 1 2 (Text.trimStart text)

def expectLoose? (letter : Char) (text : List Char) : Option (List Char) :=
  expect? letter (Text.trimStart text)

/-- What may stand between the hours and minutes of an offset. -/
def skipColons (text : List Char) : List Char :=
  text.dropWhile fun letter => letter == ':' || Text.isBlank letter

/-- An offset, or the name of universal time. -/
def takeZone? (text : List Char) : Option (Int × List Char) :=
  if (text.take 3).map Char.toUpper == ['U', 'T', 'C'] then
    some (0, text.drop 3)
  else
    takeOffset? (fun rest => some (skipColons rest)) text

/-- The loose form: blanks may stand between the parts, numbers may be
short, years may be signed. -/
def parse? (text : String) : Option Instant := do
  let (year, rest) ← takeYear? text.toList
  let rest ← expectLoose? '-' rest
  let (month, rest) ← takeField? rest
  let rest ← expectLoose? '-' rest
  let (day, rest) ← takeField? rest
  let rest ← takeSeparator? rest
  let (hour, rest) ← takeField? rest
  let rest ← expectLoose? ':' rest
  let (minute, rest) ← takeField? rest
  let rest ← expectLoose? ':' rest
  let (second, rest) ← takeField? rest
  let (nanoseconds, rest) ← takeFraction? rest
  let (offset, rest) ← takeZone? (Text.trimStart rest)
  if (Text.trimStart rest).isEmpty then
    Parts.instant?
      ⟨year, month, day, hour, minute, second, nanoseconds, offset⟩
  else
    none

end UsageForecast.Timestamp

namespace UsageForecast.Instant

def toJson (instant : Instant) : Json := .string (Timestamp.write instant)

def ofJson? (value : Json) : Option Instant :=
  value.text? >>= Timestamp.parse?

instance : Codec Instant := ⟨toJson, ofJson?⟩

end UsageForecast.Instant
