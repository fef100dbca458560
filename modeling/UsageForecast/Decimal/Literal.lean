import UsageForecast.Decimal.Basic

/-!
# The text of numbers, read

`Numeral.parse?` reads a number the way usage back ends and quantile labels
write it: an optional sign, digits with at most one point and at least one
digit, an optional exponent; or an infinity or a not-a-number word in any
case.  Blanks, digit separators and other bases are refused.
-/

namespace UsageForecast

def spanDigits (text : List Char) : List Char × List Char :=
  text.span Char.isDigit

/-- Split off a leading sign; without one the number is positive. -/
def splitSign : List Char → Bool × List Char
  | '-' :: rest => (true, rest)
  | '+' :: rest => (false, rest)
  | rest => (false, rest)

/-- An integer with an optional sign and at least one digit, and nothing
else. -/
def parseInteger? (text : List Char) : Option Int :=
  let (negative, digits) := splitSign text
  if digits.isEmpty || !digits.all Char.isDigit then
    none
  else
    let magnitude : Int := Decimal.readDigits 0 digits
    some (if negative then -magnitude else magnitude)

namespace Decimal

/-- Digits with at most one point and at least one digit, split at the
point; what follows is returned last. -/
def splitPoint? (text : List Char) :
    Option (List Char × List Char × List Char) :=
  let (whole, rest) := spanDigits text
  let (fraction, rest) :=
    match rest with
    | '.' :: tail => spanDigits tail
    | _ => ([], rest)
  if whole.isEmpty && fraction.isEmpty then
    none
  else
    some (whole, fraction, rest)

/-- The power of ten after the digits: nothing, or an exponent mark with an
integer. -/
def readScale? : List Char → Option Int
  | [] => some 0
  | mark :: rest =>
      if mark == 'e' || mark == 'E' then parseInteger? rest else none

def parseMagnitude? (negative : Bool) (text : List Char) : Option Decimal := do
  let (whole, fraction, rest) ← splitPoint? text
  let scale ← readScale? rest
  return ofParts negative whole fraction scale

end Decimal

namespace Numeral

/-- The words for numbers that have no digits, compared without regard to
case. -/
def parseWord? (negative : Bool) (text : List Char) : Option Numeral :=
  match String.ofList (text.map Char.toLower) with
  | "inf" => some (.infinite negative)
  | "infinity" => some (.infinite negative)
  | "nan" => some .undefined
  | _ => none

def parse? (text : List Char) : Option Numeral :=
  let (negative, unsigned) := splitSign text
  match Decimal.parseMagnitude? negative unsigned with
  | some value => some (.decimal value)
  | none => parseWord? negative unsigned

end Numeral

end UsageForecast
