import Mathlib
import UsageForecast.Proofs.ScalarSign

/-!
# Exact numbers as scalars

The numbers of an ordered field are scalars whose operations do not round:
every value is finite, and sums, products and quotients are those of the
field.  Logarithms and roots are functions that come with the field; for the
real numbers they are the usual ones.
-/

namespace UsageForecast

/-- The functions of a field that its operations do not give. -/
class Transcendental (K : Type) where
  log : K → K
  sqrt : K → K
  realPower : K → K → K

noncomputable instance : Transcendental ℝ where
  log := Real.log
  sqrt := Real.sqrt
  realPower base exponent := base ^ exponent

namespace Exact

section

variable {K : Type} [Field K]

/-- The number that a decimal writes. -/
def ofDecimal (decimal : Decimal) : K :=
  (if decimal.negative then -1 else 1) * decimal.digits *
    10 ^ decimal.exponent

open Classical in
/-- A decimal that writes a number, if there is one. -/
noncomputable def numeral (value : K) : Numeral :=
  if written : ∃ decimal, ofDecimal decimal = value then
    .decimal written.choose
  else
    .undefined

variable [LinearOrder K] [FloorRing K]

/-- The nearest whole number, halves away from zero. -/
def nearest (value : K) : Int :=
  if 0 ≤ value then ⌊value + 1 / 2⌋ else ⌈value - 1 / 2⌉

/-- The whole part, toward zero. -/
def wholePart (value : K) : Int :=
  if 0 ≤ value then ⌊value⌋ else ⌈value⌉

noncomputable scoped instance analytic [Transcendental K] : Analytic K where
  toZero := inferInstance
  toOne := inferInstance
  toAdd := inferInstance
  toSub := inferInstance
  toNeg := inferInstance
  toMul := inferInstance
  toDiv := inferInstance
  toLE := inferInstance
  toLT := inferInstance
  toNatCast := inferInstance
  decideLE := inferInstance
  decideLT := inferInstance
  isFinite _ := true
  ofDecimal := ofDecimal
  infinity? _ := none
  undefined? := none
  toNumeral := numeral
  round value := nearest value
  truncate value :=
    max (-Int.pow 2 63) (min (Int.pow 2 63 - 1) (wholePart value))
  log := Transcendental.log
  sqrt := Transcendental.sqrt
  realPower := Transcendental.realPower
  floorIndex value := min ⌊value⌋.toNat (UInt64.size - 1)
  ceilIndex value := min ⌈value⌉.toNat (UInt64.size - 1)

end

variable {K : Type} [Field K] [LinearOrder K] [FloorRing K]
  [Transcendental K]

-- The operations are looked for in the field first.
attribute [scoped instance (low)] Scalar.toZero Scalar.toOne Scalar.toAdd
  Scalar.toSub Scalar.toNeg Scalar.toMul Scalar.toDiv Scalar.toLE Scalar.toLT
  Scalar.toNatCast

scoped instance : OrderedScalar K where
  le_self_of_finite _ := le_rfl
  le_self_of_le _ := ⟨le_rfl, le_rfl⟩
  le_trans := le_trans
  le_or_ge _ _ := le_total _ _

scoped instance [IsStrictOrderedRing K] : SignedScalar K where
  Unsigned value := 0 ≤ value
  unsigned_one := zero_le_one
  unsigned_ofDecimal {decimal} unsigned := by
    change (0 : K) ≤ (if decimal.negative then -1 else 1) * decimal.digits *
      10 ^ decimal.exponent
    rw [unsigned, if_neg Bool.false_ne_true, one_mul]
    positivity
  unsigned_mul := mul_nonneg
  unsigned_div := div_nonneg
  nonneg_of_unsigned _ unsigned := unsigned
  zero_nonneg := le_rfl
  add_nonneg := add_nonneg

@[simp] theorem isFinite_eq (value : K) : Scalar.isFinite value = true := rfl

@[simp] theorem scientific_eq (digits : Nat) (exponent : Int) :
    (Scalar.scientific digits exponent : K) = digits * 10 ^ exponent := by
  change (1 : K) * digits * 10 ^ exponent = _
  rw [one_mul]

@[simp] theorem larger_eq_max (left right : K) :
    Scalar.larger left right = max left right := by
  unfold Scalar.larger
  rcases le_total left right with below | above
  · rw [if_pos below, max_eq_right below]
  · rw [if_pos above, max_eq_left above]
    split
    next below => exact le_antisymm above below
    next => rfl

@[simp] theorem smaller_eq_min (left right : K) :
    Scalar.smaller left right = min left right := by
  unfold Scalar.smaller
  rcases le_total left right with below | above
  · rw [if_pos below, min_eq_left below]
  · rw [if_pos above, min_eq_right above]
    split
    next below => exact le_antisymm below above
    next => rfl

theorem clamp_eq {low high : K} (ordered : low ≤ high) (value : K) :
    Scalar.clamp value low high = max low (min value high) := by
  unfold Scalar.clamp
  split
  next below =>
    rw [max_eq_left ((min_le_left _ _).trans below.le)]
  next above =>
    have atLeast : low ≤ value := not_lt.1 above
    split
    next beyond => rw [min_eq_right beyond.le, max_eq_right ordered]
    next within =>
      rw [min_eq_left (not_lt.1 within), max_eq_right atLeast]

theorem clamp_mem {low high : K} (ordered : low ≤ high) (value : K) :
    low ≤ Scalar.clamp value low high ∧
      Scalar.clamp value low high ≤ high := by
  rw [clamp_eq ordered]
  exact ⟨le_max_left _ _, max_le ordered (min_le_right _ _)⟩

theorem clamp_of_mem {value low high : K} (above : low ≤ value)
    (below : value ≤ high) : Scalar.clamp value low high = value := by
  rw [clamp_eq (above.trans below), min_eq_left below, max_eq_right above]

theorem clamp_mono {low high left right : K} (ordered : low ≤ high)
    (below : left ≤ right) :
    Scalar.clamp left low high ≤ Scalar.clamp right low high := by
  rw [clamp_eq ordered, clamp_eq ordered]
  exact max_le_max le_rfl (min_le_min below le_rfl)

/-- A clamped value stays in an interval that meets the bounds. -/
theorem clamp_mem_of_meets {low high value least greatest member : K}
    (valueWithin : low ≤ value ∧ value ≤ high)
    (memberWithin : low ≤ member ∧ member ≤ high)
    (bounded : least ≤ member ∧ member ≤ greatest) :
    low ≤ Scalar.clamp value least greatest ∧
      Scalar.clamp value least greatest ≤ high := by
  rw [clamp_eq (bounded.1.trans bounded.2)]
  have above : low ≤ min value greatest :=
    le_min valueWithin.1 (memberWithin.1.trans bounded.2)
  have below : min value greatest ≤ high :=
    (min_le_left _ _).trans valueWithin.2
  exact ⟨above.trans (le_max_right _ _),
    max_le (bounded.1.trans memberWithin.2) below⟩

@[simp] theorem sum_eq (values : List K) :
    Scalar.sum values = values.sum :=
  List.sum_eq_foldl.symm

/-- Squaring the base halves the count that is left. -/
theorem powerLoop_eq (count : Nat) (result base : K) :
    Scalar.powerLoop count result base = result * base ^ count := by
  induction count, result, base using Scalar.powerLoop.induct with
  | case1 count result base single =>
      unfold Scalar.powerLoop
      obtain rfl | rfl : count = 0 ∨ count = 1 := by omega
      · simp
      · simp
  | case2 count result base next several induction =>
      unfold Scalar.powerLoop
      simp only [several, if_false]
      rw [show (if count % 2 = 1 then result * base else result) = next
        from rfl, induction]
      have halves : count = count % 2 + (count / 2 + count / 2) := by omega
      conv_rhs => rw [halves, pow_add, pow_add, ← mul_pow]
      rw [← mul_assoc]
      congr 1
      rcases Nat.mod_two_eq_zero_or_one count with even | odd
      · simp [next, even]
      · simp [next, odd]

@[simp] theorem power_eq (base : K) (exponent : Int) :
    Scalar.power base exponent = base ^ exponent := by
  unfold Scalar.power
  rw [powerLoop_eq, one_mul]
  split
  next negative =>
    have opposite : exponent = -(exponent.natAbs : Int) := by omega
    conv_rhs => rw [opposite, zpow_neg, zpow_natCast]
    exact one_div _
  next =>
    have same : exponent = (exponent.natAbs : Int) := by omega
    conv_rhs => rw [same, zpow_natCast]

theorem round_eq_nearest (value : K) :
    Scalar.round value = (nearest value : K) := rfl

theorem truncate_intCast [IsStrictOrderedRing K] (count : Int) :
    Scalar.truncate (count : K) =
      max (-Int.pow 2 63) (min (Int.pow 2 63 - 1) count) := by
  change max _ (min _ (wholePart (count : K))) = _
  rw [wholePart]
  simp

section

omit [Transcendental K]

theorem nearest_of_nonneg {value : K} (nonneg : 0 ≤ value) :
    nearest value = ⌊value + 1 / 2⌋ := if_pos nonneg

variable [IsStrictOrderedRing K]

theorem nearest_intCast (count : Int) : nearest (count : K) = count := by
  unfold nearest
  split
  · rw [Int.floor_eq_iff]
    constructor <;> linarith
  · rw [Int.ceil_eq_iff]
    constructor <;> linarith

theorem nearest_mono {left right : K} (nonneg : 0 ≤ left)
    (below : left ≤ right) : nearest left ≤ nearest right := by
  rw [nearest_of_nonneg nonneg, nearest_of_nonneg (nonneg.trans below)]
  exact Int.floor_mono (by linarith)

theorem nearest_nonneg {value : K} (nonneg : 0 ≤ value) :
    0 ≤ nearest value := by
  rw [nearest_of_nonneg nonneg, Int.floor_nonneg]
  linarith

theorem nearest_le {value : K} {bound : Int} (nonneg : 0 ≤ value)
    (below : value < bound) : nearest value ≤ bound := by
  rw [nearest_of_nonneg nonneg, ← Int.lt_add_one_iff, Int.floor_lt]
  push_cast
  linarith

theorem abs_nearest_sub_le {value : K} (nonneg : 0 ≤ value) :
    |(nearest value : K) - value| ≤ 1 / 2 := by
  rw [nearest_of_nonneg nonneg, abs_le]
  have below := Int.floor_le (value + 1 / 2)
  have above := Int.lt_floor_add_one (value + 1 / 2)
  constructor <;> linarith

end

end Exact

end UsageForecast
