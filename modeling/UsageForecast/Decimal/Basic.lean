/-!
# Decimal numerals

A decimal is a signed whole number of units of a power of ten.  A numeral is
what a number's text can say: a decimal, an infinity, or no number at all.
-/

namespace UsageForecast

/-- The number `±digits · 10 ^ exponent`; zero keeps its sign. -/
structure Decimal where
  negative : Bool
  digits : Nat
  exponent : Int
deriving DecidableEq, Repr, Inhabited

/-- What the text of a number can stand for. -/
inductive Numeral where
  | decimal (value : Decimal)
  | infinite (negative : Bool)
  | undefined
deriving DecidableEq, Repr, Inhabited

namespace Decimal

def ofNat (digits : Nat) : Decimal := ⟨false, digits, 0⟩

def ofInt (value : Int) : Decimal := ⟨value < 0, value.natAbs, 0⟩

/-- The decimal digits of a natural number, most significant first. -/
def digitChars (value : Nat) : List Char := Nat.toDigits 10 value

def width (value : Nat) : Nat := (digitChars value).length

/-- Move trailing zeros of the digits into the exponent. -/
def stripZeros (digits : Nat) (exponent : Int) : Nat × Int :=
  if whole : digits ≠ 0 ∧ digits % 10 = 0 then
    stripZeros (digits / 10) (exponent + 1)
  else
    (digits, exponent)
termination_by digits
decreasing_by omega

/-- The same number without trailing zeros; zero has exponent zero. -/
def reduce (value : Decimal) : Decimal :=
  if value.digits = 0 then
    ⟨value.negative, 0, 0⟩
  else
    let (digits, exponent) := stripZeros value.digits value.exponent
    ⟨value.negative, digits, exponent⟩

/-- The number a run of decimal digits is read as, after earlier digits. -/
def readDigits (start : Nat) (digits : List Char) : Nat :=
  digits.foldl (fun value digit => value * 10 + (digit.toNat - '0'.toNat)) start

/-- The decimal written `whole.fraction` with a scale of ten. -/
def ofParts (negative : Bool) (whole fraction : List Char) (scale : Int) :
    Decimal :=
  ⟨negative, readDigits (readDigits 0 whole) fraction,
    scale - fraction.length⟩

end Decimal

end UsageForecast
