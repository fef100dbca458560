import UsageForecast.Decimal.Basic

/-!
# Decimals near a binary number

A finite binary number is `mantissa · 2 ^ exponent`.  `significant` rounds
it to a number of significant digits, halves to even; `shortest` is the
nearest of the decimals with the fewest digits among those that round back
to it.  All comparisons are between products of natural numbers.
-/

namespace UsageForecast.Decimal

/-- A positive fraction of natural numbers. -/
structure Fraction where
  numerator : Nat
  denominator : Nat
deriving Repr, Inhabited

namespace Fraction

/-- The fraction `mantissa · 2 ^ exponent`. -/
def ofBinary (mantissa : Nat) (exponent : Int) : Fraction :=
  if exponent < 0 then
    ⟨mantissa, Nat.pow 2 exponent.natAbs⟩
  else
    ⟨mantissa * Nat.pow 2 exponent.natAbs, 1⟩

/-- The fraction divided by a power of ten. -/
def shift (value : Fraction) (exponent : Int) : Fraction :=
  if exponent < 0 then
    ⟨value.numerator * Nat.pow 10 exponent.natAbs, value.denominator⟩
  else
    ⟨value.numerator, value.denominator * Nat.pow 10 exponent.natAbs⟩

def floor (value : Fraction) : Nat := value.numerator / value.denominator

/-- Order of a fraction and `whole + half / 2`. -/
def compareHalves (value : Fraction) (halves : Nat) : Ordering :=
  compare (2 * value.numerator) (halves * value.denominator)

/-- The nearest whole number, halves to even. -/
def round (value : Fraction) : Nat :=
  let below := value.floor
  match value.compareHalves (2 * below + 1) with
  | .lt => below
  | .gt => below + 1
  | .eq => if below % 2 = 0 then below else below + 1

def order (left right : Fraction) : Ordering :=
  compare (left.numerator * right.denominator)
    (right.numerator * left.denominator)

/-- The power of ten of the leading digit, searched from a first guess. -/
def leadingFrom (value : Fraction) : Nat → Int → Int
  | 0, guess => guess
  | fuel + 1, guess =>
      let scaled := value.shift guess
      if scaled.numerator < scaled.denominator then
        leadingFrom value fuel (guess - 1)
      else if 10 * scaled.denominator ≤ scaled.numerator then
        leadingFrom value fuel (guess + 1)
      else
        guess

/-- The power of ten of the leading digit of a positive fraction: the guess
from the widths is at most one too large. -/
def leading (value : Fraction) : Int :=
  leadingFrom value 3
    ((width value.numerator : Int) - width value.denominator)

end Fraction

/-- The nearest decimal with a number of significant digits, halves to
even. -/
def significant (count : Nat) (value : Fraction) : Decimal :=
  let exponent := value.leading - count + 1
  reduce ⟨false, (value.shift exponent).round, exponent⟩

/-- The decimals that are read as one binary number: those between two
fractions, the ends included for an even mantissa. -/
structure Interval where
  low : Fraction
  high : Fraction
  closed : Bool

def Interval.holds (interval : Interval) (digits : Nat) (exponent : Int) :
    Bool :=
  let point : Fraction := ⟨digits, 1⟩
  let aboveLow := (interval.low.shift exponent).order point
  let belowHigh := point.order (interval.high.shift exponent)
  if interval.closed then
    aboveLow != .gt && belowHigh != .gt
  else
    aboveLow == .lt && belowHigh == .lt

/-- The grid point next to a value that lies in the interval, the nearer one
if both do, the even one if they are as near. -/
def Interval.neighbour? (interval : Interval) (value : Fraction)
    (exponent : Int) : Option Nat :=
  let scaled := value.shift exponent
  let below := scaled.floor
  let lower := interval.holds below exponent
  let upper := interval.holds (below + 1) exponent
  if lower && upper then
    some scaled.round
  else if lower then
    some below
  else if upper then
    some (below + 1)
  else
    none

def Interval.search (interval : Interval) (value : Fraction)
    (leading : Int) : Nat → Nat → Decimal
  | 0, count => significant count value
  | fuel + 1, count =>
      let exponent := leading - count + 1
      match interval.neighbour? value exponent with
      | some digits => reduce ⟨false, digits, exponent⟩
      | none => interval.search value leading fuel (count + 1)

/-- The binary numbers around `mantissa · 2 ^ exponent` reach half way to
its neighbours; below a power of two the neighbour is only half as far. -/
def readingInterval (mantissa : Nat) (exponent : Int) (narrowBelow : Bool) :
    Interval :=
  { low :=
      if narrowBelow then .ofBinary (4 * mantissa - 1) (exponent - 2)
      else .ofBinary (2 * mantissa - 1) (exponent - 1)
    high := .ofBinary (2 * mantissa + 1) (exponent - 1)
    closed := mantissa % 2 = 0 }

/-- The nearest of the shortest decimals that are read as
`mantissa · 2 ^ exponent`; seventeen digits always suffice. -/
def shortest (mantissa : Nat) (exponent : Int) (narrowBelow : Bool) :
    Decimal :=
  let value := Fraction.ofBinary mantissa exponent
  (readingInterval mantissa exponent narrowBelow).search value value.leading
    17 1

end UsageForecast.Decimal
