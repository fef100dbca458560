import UsageForecast.Proofs.NumberText
import UsageForecast.Scalar.Binary

/-!
# The text of numbers that are not finite

A number is written as a decimal without trailing zeros if it is finite, and
as no decimal otherwise.  Whether a double is finite is told by its exponent
field.
-/

namespace UsageForecast

/-- Scalars whose finite values, and no others, are written as decimals. -/
class DecimalScalar (α : Type) [Scalar α] : Prop where
  written_iff {value : α} :
    (∃ decimal, Scalar.toNumeral value = .decimal decimal) ↔
      Scalar.isFinite value = true
  reduced {value : α} {decimal : Decimal} :
    Scalar.toNumeral value = .decimal decimal → decimal.Reduced

theorem Decimal.reduced_search (interval : Interval) (value : Fraction)
    (leading : Int) (fuel count : Nat) :
    (interval.search value leading fuel count).Reduced := by
  induction fuel generalizing count with
  | zero => exact reduced_reduce _
  | succ fuel induction =>
      unfold Interval.search
      dsimp only
      split
      · exact reduced_reduce _
      · exact induction _

namespace Binary

open Float.Model

theorem field_eq_exponent (value : Float) :
    (fields value).2.1 = (@UnpackedFloat.unpackExponent Format.binary64
      value.toModel.toBits.toBitVec).toNat := by
  change _ = (value.toBits.toNat >>> 52) % 2 ^ 11
  rw [Nat.shiftRight_eq_div_pow]
  rfl

/-- A double is finite unless all bits of its exponent field are set. -/
theorem isFinite_iff_field {value : Float} :
    value.isFinite = true ↔ (fields value).2.1 ≠ Nat.pow 2 11 - 1 := by
  have allSet (exponent : BitVec 11) :
      exponent = -1#11 ↔ exponent.toNat = Nat.pow 2 11 - 1 := by
    rw [← BitVec.toNat_inj]
    rfl
  rw [field_eq_exponent, ne_eq, ← allSet]
  change value.toModel.unpack.isFinite = true ↔ _
  unfold Float.Model.unpack UnpackedFloat.unpack
  dsimp only
  -- Which number is unpacked does not matter, only whether it is finite.
  by_cases full : @UnpackedFloat.unpackExponent Format.binary64
      value.toModel.toBits.toBitVec = -1#11
  · rw [if_pos full, apply_ite UnpackedFloat.isFinite]
    have unlimited (condition : Prop) [Decidable condition] :
        ¬ (if condition then false else false) = true := by simp
    exact iff_of_false (unlimited _) (not_not.2 full)
  · rw [if_neg full, apply_ite UnpackedFloat.isFinite,
      apply_dite UnpackedFloat.isFinite]
    have limited (first second : Prop) [Decidable first]
        [Decidable second] :
        (if first then if second then true else true else true) = true := by
      simp
    exact iff_of_true (limited _ _) full

end Binary

instance : DecimalScalar Float where
  written_iff {value} := by
    change (∃ decimal, Binary.shortest value = .decimal decimal) ↔
      value.isFinite = true
    rw [Binary.isFinite_iff_field]
    unfold Binary.shortest Binary.numeralBy
    dsimp only
    split
    next full => split <;> simp [full]
    next partly => split <;> simp [partly]
  reduced {value decimal} written := by
    change Binary.shortest value = .decimal decimal at written
    unfold Binary.shortest Binary.numeralBy at written
    dsimp only at written
    split at written
    · split at written <;> cases written
    · split at written
      · cases written
        exact .inl ⟨rfl, rfl⟩
      · cases written
        exact Decimal.reduced_search _ _ _ _ _

end UsageForecast
