import UsageForecast.Decimal.Rendering

/-!
# Scalars

The estimators are written once over a small class of number types.  The
daemon runs them on binary floating point; the same definitions over an
exact field say what they compute when no rounding takes place.
-/

namespace UsageForecast

/-- Numbers with arithmetic, a decidable order and a decimal text. -/
class Scalar (α : Type) extends
    Zero α, One α, Add α, Sub α, Neg α, Mul α, Div α, LE α, LT α,
    NatCast α where
  decideLE : DecidableLE α
  decideLT : DecidableLT α
  /-- Whether a value is a number at all and not an infinity. -/
  isFinite : α → Bool
  /-- The nearest value to a decimal. -/
  ofDecimal : Decimal → α
  /-- The infinities, where the type has them. -/
  infinity? : Bool → Option α
  /-- The result of an undefined operation, where the type has one. -/
  undefined? : Option α
  /-- A numeral that reads back as the value, as short as one can be. -/
  toNumeral : α → Numeral
  /-- The nearest whole number, halves away from zero. -/
  round : α → α
  /-- The whole part as a signed 64-bit word: the nearest word for values
  that do not fit, zero for an undefined value. -/
  truncate : α → Int

namespace Scalar

variable {α : Type} [Scalar α]

instance (left right : α) : Decidable (left ≤ right) :=
  decideLE left right

instance (left right : α) : Decidable (left < right) :=
  decideLT left right

def ofNumeral? : Numeral → Option α
  | .decimal value => some (ofDecimal value)
  | .infinite negative => infinity? negative
  | .undefined => undefined?

/-- The nearest value to `digits · 10 ^ exponent`. -/
def scientific (digits : Nat) (exponent : Int) : α :=
  ofDecimal ⟨false, digits, exponent⟩

/-- Equal as numbers: an undefined value equals nothing. -/
def same (left right : α) : Bool :=
  decide (left ≤ right) && decide (right ≤ left)

/-- The larger of two values; an undefined one gives way to the other. -/
def larger (left right : α) : α :=
  if left ≤ right then right
  else if right ≤ left then left
  else if left ≤ left then left
  else right

def smaller (left right : α) : α :=
  if left ≤ right then left
  else if right ≤ left then right
  else if left ≤ left then left
  else right

/-- Move a value into an interval; an undefined value stays. -/
def clamp (value low high : α) : α :=
  if value < low then low
  else if high < value then high
  else value

/-- Multiply `result` by `base ^ count`, squaring the base as the count is
halved. -/
def powerLoop (count : Nat) (result base : α) : α :=
  let result := if count % 2 = 1 then result * base else result
  if count / 2 = 0 then
    result
  else
    powerLoop (count / 2) result (base * base)
termination_by count
decreasing_by omega

def power (base : α) (exponent : Int) : α :=
  let magnitude := powerLoop exponent.natAbs 1 base
  if exponent < 0 then 1 / magnitude else magnitude

/-- The sum of a list from left to right. -/
def sum (values : List α) : α :=
  values.foldl (fun total value => total + value) 0

def display (value : α) : String := (toNumeral value).display

end Scalar

/-- Scalars with the functions that bucket layouts and spreads need. -/
class Analytic (α : Type) extends Scalar α where
  log : α → α
  sqrt : α → α
  /-- A real power of a positive base. -/
  realPower : α → α → α
  /-- The whole part of a value as an index; zero below zero. -/
  floorIndex : α → Nat
  /-- The least index that is not below a value; zero below zero. -/
  ceilIndex : α → Nat

end UsageForecast
