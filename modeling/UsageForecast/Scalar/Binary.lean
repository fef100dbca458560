import UsageForecast.Scalar.Basic
import UsageForecast.Decimal.Nearest

/-!
# Binary floating point as scalars

Doubles are taken apart into `mantissa · 2 ^ exponent` to find their decimal
text; a decimal outside the range of doubles is an infinity or a zero without
any large power being computed.
-/

namespace UsageForecast

namespace Binary

/-- The sign, the exponent field and the fraction field of a double. -/
def fields (value : Float) : Bool × Nat × Nat :=
  let bits := value.toBits.toNat
  (bits / Nat.pow 2 63 = 1, bits / Nat.pow 2 52 % Nat.pow 2 11,
    bits % Nat.pow 2 52)

/-- The decimal numeral of a double for a rule that gets its mantissa, its
exponent and whether the next smaller mantissa is only half a step away. -/
def numeralBy (rule : Nat → Int → Bool → Decimal) (value : Float) : Numeral :=
  let (negative, field, fraction) := fields value
  if field = Nat.pow 2 11 - 1 then
    if fraction = 0 then .infinite negative else .undefined
  else if field = 0 ∧ fraction = 0 then
    .decimal ⟨negative, 0, 0⟩
  else
    let mantissa := if field = 0 then fraction else Nat.pow 2 52 + fraction
    let exponent : Int := (if field = 0 then 1 else field) - 1075
    let narrowBelow := fraction = 0 && decide (1 < field)
    let magnitude := rule mantissa exponent narrowBelow
    .decimal ⟨negative, magnitude.digits, magnitude.exponent⟩

def shortest : Float → Numeral := numeralBy Decimal.shortest

def significant (count : Nat) : Float → Numeral :=
  numeralBy fun mantissa exponent _ =>
    Decimal.significant count (.ofBinary mantissa exponent)

/-- The nearest double to a decimal.  Numbers from `10 ^ 310` up are beyond
the range, and those below `10 ^ (-330)` are nearest to zero. -/
def ofDecimal (value : Decimal) : Float :=
  let magnitude : Float :=
    let leading : Int := Decimal.width value.digits + value.exponent
    if value.digits = 0 ∨ leading < -330 then 0.0
    else if 310 < leading then 1.0 / 0.0
    else Float.ofScientific value.digits (value.exponent < 0)
      value.exponent.natAbs
  if value.negative then -magnitude else magnitude

/-- The least whole number of an unsigned word that is not below a value. -/
def ceilWord (value : Float) : Nat :=
  let below := value.toUInt64
  if below.toFloat < value then min (below.toNat + 1) (UInt64.size - 1)
  else below.toNat

end Binary

instance : Analytic Float where
  zero := 0.0
  one := 1.0
  natCast := Float.ofNat
  decideLE := inferInstance
  decideLT := inferInstance
  isFinite := Float.isFinite
  ofDecimal := Binary.ofDecimal
  infinity? negative := some (if negative then -1.0 / 0.0 else 1.0 / 0.0)
  undefined? := some (0.0 / 0.0)
  toNumeral := Binary.shortest
  round := Float.round
  truncate value := value.toInt64.toInt
  log := Float.log
  sqrt := Float.sqrt
  realPower := Float.pow
  floorIndex value := value.toUInt64.toNat
  ceilIndex := Binary.ceilWord

end UsageForecast
