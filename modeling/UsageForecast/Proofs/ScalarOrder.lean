import UsageForecast.Scalar.Binary

/-!
# The order of scalars

Values that are comparable at all are ordered like numbers; an undefined value
is comparable with nothing, not even with itself.  Doubles are compared by
their sign, exponent and mantissa.
-/

namespace UsageForecast

/-- The order laws that hold even where some values are undefined. -/
class OrderedScalar (α : Type) [Scalar α] : Prop where
  le_self_of_finite {value : α} :
    Scalar.isFinite value = true → value ≤ value
  le_self_of_le {left right : α} :
    left ≤ right → left ≤ left ∧ right ≤ right
  le_trans {left middle right : α} :
    left ≤ middle → middle ≤ right → left ≤ right
  le_or_ge {left right : α} :
    left ≤ left → right ≤ right → left ≤ right ∨ right ≤ left

namespace Scalar

variable {α : Type} [Scalar α] [OrderedScalar α]

open OrderedScalar

theorem smaller_le_left {left right : α} (leftDefined : left ≤ left)
    (rightDefined : right ≤ right) : smaller left right ≤ left := by
  unfold smaller
  split
  next below => exact leftDefined
  next above =>
    have reverse : right ≤ left :=
      (le_or_ge leftDefined rightDefined).resolve_left above
    rw [if_pos reverse]
    exact reverse

theorem left_le_larger {left right : α} (leftDefined : left ≤ left)
    (rightDefined : right ≤ right) : left ≤ larger left right := by
  unfold larger
  split
  next below => exact below
  next above =>
    have reverse : right ≤ left :=
      (le_or_ge leftDefined rightDefined).resolve_left above
    rw [if_pos reverse]
    exact leftDefined

/-- Taking in another value keeps the extremes in order. -/
theorem smaller_le_larger {least greatest value : α}
    (ordered : least ≤ greatest) (defined : value ≤ value) :
    smaller least value ≤ larger greatest value := by
  obtain ⟨leastDefined, greatestDefined⟩ := le_self_of_le ordered
  have lower := smaller_le_left leastDefined defined
  have upper := left_le_larger greatestDefined defined
  exact le_trans lower (le_trans ordered upper)

end Scalar

namespace Binary

open Float.Model

/-- The place of a double among the infinities and the finite values: its
side, then its exponent and its mantissa away from zero. -/
def place? : UnpackedFloat → Option (Int × Int × Int)
  | .notANumber => none
  | .infinity .negative => some (-2, 0, 0)
  | .finite .negative mantissa exponent _ =>
      some (-1, -exponent, -mantissa)
  | .zero _ => some (0, 0, 0)
  | .finite .positive mantissa exponent _ => some (1, exponent, mantissa)
  | .infinity .positive => some (2, 0, 0)

/-- The order of places. -/
def NotAfter (left right : Int × Int × Int) : Prop :=
  left.1 < right.1 ∨ left.1 = right.1 ∧
    (left.2.1 < right.2.1 ∨ left.2.1 = right.2.1 ∧ left.2.2 ≤ right.2.2)

private theorem then_isLE_iff {left right : Int} {first second : Nat} :
    ((compare left right).then (compare first second)).isLE = true ↔
      left < right ∨ left = right ∧ first ≤ second := by
  rw [Ordering.isLE_then_iff_or, Int.compare_eq_lt, Int.compare_eq_eq,
    Nat.isLE_compare]

private theorem then_isGE_iff {left right : Int} {first second : Nat} :
    ((compare left right).then (compare first second)).isGE = true ↔
      right < left ∨ left = right ∧ second ≤ first := by
  rw [← Ordering.isLE_swap, Ordering.swap_then, Ordering.isLE_then_iff_or,
    Int.compare_swap, Nat.compare_swap, Int.compare_eq_lt,
    Int.compare_eq_eq, Nat.isLE_compare, eq_comm]

theorem le_iff_notAfter (left right : UnpackedFloat) :
    left.le right = true ↔
      ∃ first second, place? left = some first ∧
        place? right = some second ∧ NotAfter first second := by
  rcases left with (_ | _) | _ | (_ | _) |
      ⟨_ | _, first, low, firstPositive⟩ <;>
    rcases right with (_ | _) | _ | (_ | _) |
      ⟨_ | _, second, high, secondPositive⟩ <;>
    dsimp only [UnpackedFloat.le, UnpackedFloat.compare, place?] <;>
    simp [NotAfter, then_isLE_iff, then_isGE_iff]
  -- What is left are the signs of two infinities.
  all_goals rfl

/-- A double is not above another one exactly if its place is not after the
other one's. -/
theorem le_iff {left right : Float} :
    left ≤ right ↔
      ∃ first second, place? left.toModel.unpack = some first ∧
        place? right.toModel.unpack = some second ∧
          NotAfter first second := by
  rw [← le_iff_notAfter]
  change decide (left.toModel ≤ right.toModel) = true ↔ _
  rw [decide_eq_true_iff]
  rfl

theorem place?_of_finite {value : Float} (finite : value.isFinite = true) :
    ∃ place, place? value.toModel.unpack = some place := by
  change value.toModel.unpack.isFinite = true at finite
  cases unpacked : value.toModel.unpack with
  | notANumber =>
      rw [unpacked] at finite
      cases finite
  | infinity sign =>
      rw [unpacked] at finite
      cases finite
  | zero sign => exact ⟨_, rfl⟩
  | finite sign mantissa exponent positive =>
      cases sign with
      | negative => exact ⟨_, rfl⟩
      | positive => exact ⟨_, rfl⟩

end Binary

instance : OrderedScalar Float where
  le_self_of_finite {value} finite := by
    obtain ⟨place, placed⟩ := Binary.place?_of_finite finite
    rw [Binary.le_iff]
    exact ⟨place, place, placed, placed, by unfold Binary.NotAfter; omega⟩
  le_self_of_le {left right} ordered := by
    obtain ⟨first, second, placed, other, -⟩ := Binary.le_iff.1 ordered
    rw [Binary.le_iff, Binary.le_iff]
    exact ⟨⟨first, first, placed, placed, by unfold Binary.NotAfter; omega⟩,
      second, second, other, other, by unfold Binary.NotAfter; omega⟩
  le_trans {left middle right} lower upper := by
    obtain ⟨first, second, placed, between, before⟩ := Binary.le_iff.1 lower
    obtain ⟨_, third, same, other, after⟩ := Binary.le_iff.1 upper
    rw [between] at same
    obtain rfl := Option.some.inj same
    rw [Binary.le_iff]
    refine ⟨first, third, placed, other, ?_⟩
    unfold Binary.NotAfter at before after ⊢
    omega
  le_or_ge {left right} leftDefined rightDefined := by
    obtain ⟨first, _, placed, -, -⟩ := Binary.le_iff.1 leftDefined
    obtain ⟨second, _, other, -, -⟩ := Binary.le_iff.1 rightDefined
    rw [Binary.le_iff, Binary.le_iff]
    have total : Binary.NotAfter first second ∨
        Binary.NotAfter second first := by
      unfold Binary.NotAfter
      omega
    rcases total with before | after
    · exact .inl ⟨first, second, placed, other, before⟩
    · exact .inr ⟨second, first, other, placed, after⟩

end UsageForecast
