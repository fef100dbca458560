import Mathlib
import UsageForecast.Proofs.ScalarOrder

/-!
# The sign of scalars

Numbers that are read from a text without a sign have none, and neither have
their products and quotients.  For doubles this is told by the sign bit, which
rounding never changes and which does not count for an undefined value.
-/

namespace UsageForecast

/-- A sign that products and quotients keep off. -/
class SignedScalar (α : Type) [Scalar α] where
  Unsigned : α → Prop
  unsigned_one : Unsigned 1
  unsigned_ofDecimal {decimal : Decimal} :
    decimal.negative = false → Unsigned (Scalar.ofDecimal decimal)
  unsigned_mul {left right : α} :
    Unsigned left → Unsigned right → Unsigned (left * right)
  unsigned_div {left right : α} :
    Unsigned left → Unsigned right → Unsigned (left / right)
  nonneg_of_unsigned {value : α} :
    Scalar.isFinite value = true → Unsigned value → 0 ≤ value
  zero_nonneg : (0 : α) ≤ 0
  add_nonneg {left right : α} :
    0 ≤ left → 0 ≤ right → 0 ≤ left + right

namespace Scalar

open SignedScalar

variable {α : Type} [Scalar α] [SignedScalar α]

theorem unsigned_scientific (digits : Nat) (exponent : Int) :
    Unsigned (scientific digits exponent : α) :=
  unsigned_ofDecimal rfl

theorem unsigned_powerLoop (count : Nat) {result base : α}
    (start : Unsigned result) (factor : Unsigned base) :
    Unsigned (powerLoop count result base) := by
  have next (count : Nat) {result base : α} (start : Unsigned result)
      (factor : Unsigned base) :
      Unsigned (if count % 2 = 1 then result * base else result) := by
    split
    · exact unsigned_mul start factor
    · exact start
  induction count, result, base using powerLoop.induct with
  | case1 count result base single =>
      unfold powerLoop
      rw [if_pos single]
      exact next count start factor
  | case2 count result base _ several induction =>
      unfold powerLoop
      rw [if_neg several]
      exact induction (next count start factor) (unsigned_mul factor factor)

theorem unsigned_power {base : α} (factor : Unsigned base)
    (exponent : Int) : Unsigned (power base exponent) := by
  have magnitude := unsigned_powerLoop exponent.natAbs unsigned_one factor
  unfold power
  split
  · exact unsigned_div unsigned_one magnitude
  · exact magnitude

theorem sum_nonneg {values : List α}
    (admitted : ∀ value ∈ values, 0 ≤ value) : 0 ≤ sum values := by
  have total (start : α) (above : 0 ≤ start) :
      0 ≤ values.foldl (fun total value => total + value) start := by
    induction values generalizing start with
    | nil => exact above
    | cons value values induction =>
        rw [List.forall_mem_cons] at admitted
        exact induction admitted.2 _ (add_nonneg above admitted.1)
  exact total 0 zero_nonneg

end Scalar

namespace Binary

open Float.Model UnpackedFloat

/-- The sign is that of a number that is not below zero; an undefined value
has none. -/
def Plain : UnpackedFloat → Prop
  | .notANumber => True
  | .infinity sign => sign = .positive
  | .zero sign => sign = .positive
  | .finite sign _ _ _ => sign = .positive

/-- A number that is not below zero; a zero may have either sign. -/
def Upper : UnpackedFloat → Prop
  | .notANumber => False
  | .infinity sign => sign = .positive
  | .zero _ => True
  | .finite sign _ _ _ => sign = .positive

theorem upper_of_plain {value : UnpackedFloat}
    (finite : value.isFinite = true) (plain : Plain value) :
    Upper value := by
  cases value with
  | notANumber => cases finite
  | infinity sign => exact plain
  | zero sign => trivial
  | finite sign mantissa exponent positive => exact plain

theorem unpackSign_packComponents {format : Format} {sign : Sign}
    {exponent : BitVec format.exponentBits}
    {mantissa : BitVec format.mantissaBitsWithoutImplicit} :
    unpackSign (packComponents format sign exponent mantissa) =
      sign.toBitVec := by
  refine BitVec.eq_of_getLsbD_eq fun place bound => ?_
  obtain rfl : place = 0 := by omega
  simp [unpackSign, packComponents, BitVec.getLsbD_append,
    BitVec.getElem_append]

theorem plain_of_unpackSign {format : Format} {bits : BitVec format.numBits}
    (unset : unpackSign bits = 0#1) :
    Plain (UnpackedFloat.unpack format bits) := by
  unfold UnpackedFloat.unpack
  simp only [unset]
  split
  · split <;> trivial
  · split
    · split <;> rfl
    · rfl

instance : DecidablePred Plain
  | .notANumber => isTrue trivial
  | .infinity sign | .zero sign | .finite sign _ _ _ =>
      match sign with
      | .positive => isTrue rfl
      | .negative => isFalse nofun

theorem unpackSign_pack {format : Format} {value : UnpackedFloat}
    (plain : Plain value) :
    unpackSign (UnpackedFloat.pack format value) = 0#1 := by
  cases value with
  | notANumber => exact unpackSign_packComponents
  | infinity sign =>
      obtain rfl := plain
      exact unpackSign_packComponents
  | zero sign =>
      obtain rfl := plain
      exact unpackSign_packComponents
  | finite sign mantissa exponent positive =>
      obtain rfl := plain
      unfold UnpackedFloat.pack
      dsimp only
      split
      · exact unpackSign_packComponents
      · split <;> exact unpackSign_packComponents

theorem plain_unpack_pack {value : UnpackedFloat} (plain : Plain value) :
    Plain (Float.Model.pack value).unpack :=
  plain_of_unpackSign (unpackSign_pack plain)

theorem upper_of_exponent {exponent : BitVec 11} {mantissa : BitVec 52}
    (limited : exponent ≠ -1#11) :
    Upper (UnpackedFloat.unpack .binary64
      (packComponents .binary64 .positive exponent mantissa)) := by
  unfold UnpackedFloat.unpack
  simp only [unpackExponent_packComponents, unpackMantissa_packComponents,
    unpackSign_packComponents, if_neg limited]
  split
  · split <;> trivial
  · rfl

theorem upper_unpack_pack {value : UnpackedFloat} (upper : Upper value) :
    Upper (Float.Model.pack value).unpack := by
  change Upper (UnpackedFloat.unpack .binary64
    (UnpackedFloat.pack .binary64 value))
  cases value with
  | notANumber => exact upper.elim
  | infinity sign =>
      obtain rfl := upper
      rfl
  | zero sign => cases sign <;> trivial
  | finite sign mantissa exponent positive =>
      obtain rfl := upper
      unfold UnpackedFloat.pack
      dsimp only
      split
      · rfl
      next within =>
        split
        · refine upper_of_exponent fun full => within ?_
          have largest := congrArg BitVec.toNat full
          rw [BitVec.toNat_ofNat] at largest
          change _ % 2 ^ 11 = 2 ^ 11 - 1 at largest
          omega
        · exact upper_of_exponent (by decide)

theorem plain_roundWithAccuracy (format : Format) (mantissa : Nat)
    (exponent : Int) (accuracy : Accuracy) :
    let rounded :=
      roundWithAccuracy format .positive mantissa exponent accuracy
    rounded.isFinite = true ∧ Plain rounded := by
  unfold roundWithAccuracy
  dsimp only
  split <;> exact ⟨rfl, rfl⟩

theorem plain_normalize (format : Format) {mantissa : Int}
    (above : 0 ≤ mantissa) (exponent : Int) :
    let normal := UnpackedFloat.normalize format mantissa exponent .positive
    normal.isFinite = true ∧ Plain normal := by
  unfold UnpackedFloat.normalize
  dsimp only
  split
  next below =>
    rw [Int.compare_eq_lt] at below
    omega
  next => exact ⟨rfl, rfl⟩
  next => exact plain_roundWithAccuracy ..

theorem plain_mul {format : Format} {left right : UnpackedFloat}
    (first : Plain left) (second : Plain right) :
    Plain (UnpackedFloat.mul format left right) := by
  rcases left with _ | _ | _ | _ <;> rcases right with _ | _ | _ | _ <;>
    simp only [Plain] at first second <;> subst_vars <;>
    first | trivial | exact (plain_roundWithAccuracy ..).2

theorem plain_div {format : Format} {left right : UnpackedFloat}
    (first : Plain left) (second : Plain right) :
    Plain (UnpackedFloat.div format left right) := by
  rcases left with _ | _ | _ | _ <;> rcases right with _ | _ | _ | _ <;>
    simp only [Plain] at first second <;> subst_vars <;>
    first | trivial | exact (plain_roundWithAccuracy ..).2

theorem upper_add {format : Format} {left right : UnpackedFloat}
    (first : Upper left) (second : Upper right) :
    Upper (UnpackedFloat.add format left right) := by
  rcases left with (_ | _) | _ | (_ | _) | ⟨_, _, _, _⟩ <;>
    rcases right with (_ | _) | _ | (_ | _) | ⟨_, _, _, _⟩ <;>
    simp only [Upper, reduceCtorEq] at first second <;> subst_vars
  all_goals try trivial
  -- What is left are two numbers that are finite and not zero.
  have above (first second : Nat) (exponent : Int) :
      Upper (UnpackedFloat.normalize format (first + second) exponent
        .positive) := by
    have normal := plain_normalize format
      (Int.natCast_nonneg (first + second)) exponent
    exact upper_of_plain normal.1 normal.2
  exact above _ _ _

theorem plain_ofScientific {format : Format} (digits : Nat)
    (exponent : Int) :
    Plain (UnpackedFloat.ofScientific format digits exponent) := by
  unfold UnpackedFloat.ofScientific
  split
  · rfl
  · split
    · rfl
    · split
      · rfl
      · split
        · exact plain_mul rfl rfl
        · exact plain_div rfl rfl

theorem plain_ofDecimal {decimal : Decimal}
    (positive : decimal.negative = false) :
    Plain (ofDecimal decimal).toModel.unpack := by
  have table : ∀ place : Fin 23, Plain
      (Float.exactlyRepresentablePowersOfTen[place]).toModel.unpack := by
    decide +kernel
  unfold ofDecimal
  rw [positive, if_neg Bool.false_ne_true]
  dsimp only
  split
  · decide +kernel
  · split
    · decide +kernel
    · unfold Float.ofScientific
      split
      next small =>
        have whole : Plain
            (decimal.digits.toUInt64.toFloat).toModel.unpack :=
          plain_unpack_pack
            (plain_normalize .binary64 (Int.natCast_nonneg _) 0).2
        have power := table ⟨decimal.exponent.natAbs, by omega⟩
        split
        · exact plain_unpack_pack (plain_div whole power)
        · exact plain_unpack_pack (plain_mul whole power)
      next large =>
        exact plain_unpack_pack (plain_ofScientific _ _)

theorem zero_le_iff {value : Float} :
    (0 : Float) ≤ value ↔ Upper value.toModel.unpack := by
  have origin : place? (0 : Float).toModel.unpack = some (0, 0, 0) := rfl
  rw [le_iff, origin]
  rcases value.toModel.unpack with (_ | _) | _ | _ | ⟨_ | _, _, _, _⟩ <;>
    simp [place?, Upper, NotAfter]

end Binary

instance : SignedScalar Float where
  Unsigned value := Binary.Plain value.toModel.unpack
  unsigned_one := by decide +kernel
  unsigned_ofDecimal := Binary.plain_ofDecimal
  unsigned_mul first second :=
    Binary.plain_unpack_pack (Binary.plain_mul first second)
  unsigned_div first second :=
    Binary.plain_unpack_pack (Binary.plain_div first second)
  nonneg_of_unsigned {value} finite unsigned := by
    change (0 : Float) ≤ value
    rw [Binary.zero_le_iff]
    change value.toModel.unpack.isFinite = true at finite
    exact Binary.upper_of_plain finite unsigned
  zero_nonneg := by decide +kernel
  add_nonneg first second := Binary.zero_le_iff.2
    (Binary.upper_unpack_pack (Binary.upper_add (Binary.zero_le_iff.1 first)
      (Binary.zero_le_iff.1 second)))

end UsageForecast
