/-!
# Instants of universal time

An instant is a count of seconds since 1970 and nanoseconds after it; a leap
second shares its count with the second before it and has a billion
nanoseconds more.  Calendar dates are those of the Gregorian rule extended in
both directions.
-/

namespace UsageForecast

/-- A point of universal time. -/
structure Instant where
  seconds : Int
  nanoseconds : Nat
deriving DecidableEq, Repr, Inhabited

structure Date where
  year : Int
  month : Nat
  day : Nat
deriving DecidableEq, Repr, Inhabited

namespace Date

def isLeapYear (year : Int) : Bool :=
  year % 4 == 0 && (year % 100 != 0 || year % 400 == 0)

def monthLength (year : Int) (month : Nat) : Nat :=
  if month == 2 then
    if isLeapYear year then 29 else 28
  else if month == 4 || month == 6 || month == 9 || month == 11 then 30
  else 31

def isValid (date : Date) : Bool :=
  1 ≤ date.month && date.month ≤ 12 && 1 ≤ date.day
    && date.day ≤ monthLength date.year date.month

/-- Days from 1 January 1970.  Years are counted from March, so that the
leap day is the last of a year and eras of 400 years have equal length. -/
def toDays (date : Date) : Int :=
  let year := if date.month ≤ 2 then date.year - 1 else date.year
  let era := year / 400
  let yearOfEra := year - era * 400
  let monthFromMarch : Int := (date.month + 9) % 12
  let dayOfYear := (153 * monthFromMarch + 2) / 5 + date.day - 1
  let dayOfEra :=
    yearOfEra * 365 + yearOfEra / 4 - yearOfEra / 100 + dayOfYear
  era * 146097 + dayOfEra - 719468

/-- The date that lies a number of days after 1 January 1970. -/
def ofDays (days : Int) : Date :=
  let shifted := days + 719468
  let era := shifted / 146097
  let dayOfEra := shifted - era * 146097
  let yearOfEra :=
    (dayOfEra - dayOfEra / 1460 + dayOfEra / 36524 - dayOfEra / 146096) / 365
  let dayOfYear :=
    dayOfEra - (365 * yearOfEra + yearOfEra / 4 - yearOfEra / 100)
  let monthFromMarch := (5 * dayOfYear + 2) / 153
  let day := dayOfYear - (153 * monthFromMarch + 2) / 5 + 1
  let month :=
    if monthFromMarch < 10 then monthFromMarch + 3 else monthFromMarch - 9
  let year := yearOfEra + era * 400 + (if month ≤ 2 then 1 else 0)
  ⟨year, month.toNat, day.toNat⟩

end Date

namespace Instant

/-- Instants are ordered by their seconds, then by their nanoseconds. -/
instance : Ord Instant :=
  ⟨compareLex (compareOn (·.seconds)) (compareOn (·.nanoseconds))⟩

def latest (left right : Instant) : Instant :=
  if compare left right == .lt then right else left

def earliest (left right : Instant) : Instant :=
  if compare right left == .lt then right else left

def firstSecond : Int := Date.toDays ⟨-262143, 1, 1⟩ * 86400

def lastSecond : Int := Date.toDays ⟨262142, 12, 31⟩ * 86400 + 86399

/-- Whether an instant lies in the range of the calendar. -/
def isShowable (instant : Instant) : Bool :=
  firstSecond ≤ instant.seconds && instant.seconds ≤ lastSecond

def ofSeconds? (seconds : Int) (nanoseconds : Nat) : Option Instant :=
  let instant : Instant := ⟨seconds, nanoseconds⟩
  if instant.isShowable then some instant else none

def ofMilliseconds? (milliseconds : Int) : Option Instant :=
  ofSeconds? (milliseconds / 1000)
    ((milliseconds % 1000).toNat * 1000000)

/-- The nanoseconds of an instant since 1970, leap seconds as they are
counted. -/
def toNanoseconds (instant : Instant) : Int :=
  instant.seconds * 1000000000 + instant.nanoseconds

/-- The longest period in seconds that times can be moved by. -/
def longestPeriod : Nat := 9223372036854775

/-- A configured period in seconds; one that is too long counts as none. -/
def effectivePeriod (seconds : Nat) : Nat :=
  if seconds ≤ longestPeriod then seconds else 0

/-- The instant a number of seconds earlier, within the calendar. -/
def before? (instant : Instant) (seconds : Nat) : Option Instant :=
  ofSeconds? (instant.seconds - seconds) instant.nanoseconds

/-- Whether an instant lies at most a number of seconds before another. -/
def within (instant now : Instant) (seconds : Nat) : Bool :=
  now.toNanoseconds - instant.toNanoseconds ≤ (seconds : Int) * 1000000000

def date (instant : Instant) : Date := Date.ofDays (instant.seconds / 86400)

def secondOfDay (instant : Instant) : Nat := (instant.seconds % 86400).toNat

end Instant

end UsageForecast
