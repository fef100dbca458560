import UsageForecast.Proofs.ExactScalar
import UsageForecast.Proofs.QuantityGrammar

/-!
# The values of quantities

Without rounding, a quantity is worth its number times the power that its
suffix stands for.
-/

namespace UsageForecast.Quantity

section

variable {K : Type} [Field K]

/-- The number that the digits write. -/
def PlainNumber.value (number : PlainNumber) : K :=
  Nat.ofDigitChars 10 (number.whole ++ number.places) 0 /
    (10 ^ number.places.length : Nat)

theorem PlainNumber.ofDecimal_decimal (number : PlainNumber) :
    (Exact.ofDecimal number.decimal : K) = number.value := by
  have read : Decimal.readDigits (Decimal.readDigits 0 number.whole)
      number.places =
        Nat.ofDigitChars 10 (number.whole ++ number.places) 0 := by
    rw [← Decimal.readDigits_append, Decimal.readDigits_eq]
  rw [Exact.ofDecimal, PlainNumber.decimal, Decimal.ofParts]
  simp only [Bool.false_eq_true, if_false, one_mul, read, zero_sub,
    zpow_neg, zpow_natCast]
  rw [PlainNumber.value, div_eq_mul_inv, Nat.cast_pow, Nat.cast_ofNat]

/-- The power that a suffix stands for. -/
def Suffix.factor : Suffix → K
  | .none => 1
  | .bytes => 1
  | .fraction level => ((1000 ^ (level.val + 1) : Nat) : K)⁻¹
  | .multiple level => (1000 ^ (level.val + 1) : Nat)
  | .binary level => (1024 ^ (level.val + 1) : Nat)
  | .scale exponent => (10 : Nat) ^ exponent.value

end

section

open scoped Exact

variable {K : Type} [Field K] [LinearOrder K] [FloorRing K]
  [Transcendental K]

theorem ofDecimal_decimal (number : PlainNumber) :
    (Scalar.ofDecimal number.decimal : K) = number.value :=
  number.ofDecimal_decimal

theorem thousands_eq (count : Nat) :
    (thousands count : K) = (1000 ^ count : Nat) := by
  have power : (10 : K) ^ (3 * count) = (1000 ^ count : Nat) := by
    rw [pow_mul, Nat.cast_pow]
    norm_num
  rw [thousands, Exact.scientific_eq, ← power]
  norm_cast
  simp

theorem timesBinary_eq (number : K) (count : Nat) :
    timesBinary number count = number * (1024 ^ count : Nat) := by
  induction count with
  | zero => simp [timesBinary]
  | succ count induction =>
      rw [timesBinary, induction, Exact.scientific_eq, pow_succ, zpow_zero,
        mul_one, mul_assoc, Nat.cast_mul]

theorem Suffix.apply_eq (number : K) (suffix : Suffix) :
    suffix.apply number = number * suffix.factor := by
  cases suffix with
  | none => exact (mul_one number).symm
  | bytes => exact (mul_one number).symm
  | fraction level =>
      rw [Suffix.apply, thousands_eq, div_eq_mul_inv, Suffix.factor]
  | multiple level => rw [Suffix.apply, thousands_eq, Suffix.factor]
  | binary level => rw [Suffix.apply, timesBinary_eq, Suffix.factor]
  | scale exponent =>
      rw [Suffix.apply, Exact.power_eq, Exact.scientific_eq, Suffix.factor]
      simp

/-- Without rounding, the product that is computed is that of the number and
the power. -/
theorem parse_eq_ok_iff_value {text : String} {resource : Resource}
    {value : K} :
    parse text resource = .ok value ↔
      ∃ (number : PlainNumber) (suffix : Suffix),
        Text.trim text.toList = number.text ++ suffix.text ∧
          number.value * suffix.factor = value := by
  simp only [parse_eq_ok_iff, Exact.isFinite_eq, and_true, Suffix.apply_eq,
    ofDecimal_decimal]

end

end UsageForecast.Quantity

namespace UsageForecast.Measurement

open Quantity

open scoped Exact in
/-- A text is accepted exactly if it is a plain number with a suffix between
blanks, and the product that is computed is finite.  The value is that product
and is not negative; without rounding it is the number times the power that
the suffix stands for.  Any other text is a failure that quotes it. -/
theorem read_text_by_grammar {α : Type} [Scalar α] [SignedScalar α]
    {K : Type} [Field K] [LinearOrder K] [FloorRing K]
    [IsStrictOrderedRing K] [Transcendental K] (text : String)
    (resource : Resource) :
    let read : Except Failure α := (Measurement.text text).read resource
    let unrounded : Except Failure K :=
      (Measurement.text text).read resource
    (∀ value, read = .ok value ↔
      ∃ (number : PlainNumber) (suffix : Suffix),
        Text.trim text.toList = number.text ++ suffix.text ∧
          suffix.apply (Scalar.ofDecimal number.decimal) = value ∧
          Scalar.isFinite value = true) ∧
      (∀ value, read = .ok value → 0 ≤ value) ∧
      ((∃ value, read = .ok value) ∨ ∃ fault : Fault,
        read = .error (fault.failure text) ∧
          (fault.failure text).message =
            s!"failed to parse usage value {Text.quote text}: "
              ++ fault.message) ∧
      ∀ value, unrounded = .ok value ↔
        ∃ (number : PlainNumber) (suffix : Suffix),
          Text.trim text.toList = number.text ++ suffix.text ∧
            number.value * suffix.factor = value := by
  refine ⟨fun value => read_text_eq_ok_iff.trans parse_eq_ok_iff,
    fun value => nonneg_of_read, ?_,
    fun value => read_text_eq_ok_iff.trans parse_eq_ok_iff_value⟩
  refine (read_text_cases text resource).imp_right ?_
  rintro ⟨fault, failed⟩
  exact ⟨fault, failed, rfl⟩

open scoped Exact in
/-- One and a half kibibytes between blanks. -/
theorem kibibytes_read :
    (Measurement.text " 1.5Ki\n" : Measurement ℝ).read .memory =
      .ok 1536 := by
  obtain ⟨-, -, -, exactly⟩ := read_text_by_grammar (α := Float) (K := ℝ)
    " 1.5Ki\n" .memory
  refine (exactly 1536).2 ⟨⟨['1'], some ['5'], by simp, by simp⟩,
    .binary 0, by decide +kernel, ?_⟩
  have digits : Nat.ofDigitChars 10 ['1', '5'] 0 = 15 := rfl
  change ((Nat.ofDigitChars 10 ['1', '5'] 0 : Nat) : ℝ) / (10 ^ 1 : Nat) *
    (1024 ^ 1 : Nat) = 1536
  rw [digits]
  norm_num

end UsageForecast.Measurement
