import UsageForecast.KeyOrder
import UsageForecast.Time.Instant

/-!
# The order of instants

Instants are linearly ordered, and the earlier and the later one of two
instants are their minimum and their maximum.
-/

namespace UsageForecast.Instant

instance : Std.TransOrd Instant :=
  inferInstanceAs (Std.TransCmp
    (compareLex (compareOn Instant.seconds) (compareOn Instant.nanoseconds)))

instance : Std.LawfulEqOrd Instant where
  eq_of_compare {left right} same := by
    obtain ⟨seconds, rest⟩ := key_eq_and_then same
    have nanoseconds := key_eq rest
    cases left
    cases right
    simp_all

instance : LE Instant := LE.ofOrd Instant

instance : Std.IsLinearOrder Instant := .of_ord

instance : Min Instant := ⟨earliest⟩

instance : Max Instant := ⟨latest⟩

theorem le_iff {left right : Instant} :
    left ≤ right ↔ (compare right left == .lt) = false := by
  rw [← Std.isGE_compare, Ordering.isGE_iff_ne_lt]
  simp

instance : Std.LawfulOrderLeftLeaningMin Instant where
  min_eq_left left right ordered := by
    change earliest left right = left
    rw [earliest, le_iff.1 ordered]
    rfl
  min_eq_right left right reversed := by
    change earliest left right = right
    rw [le_iff, Bool.not_eq_false] at reversed
    rw [earliest, reversed]
    rfl

instance : Std.LawfulOrderLeftLeaningMax Instant where
  max_eq_left left right ordered := by
    change latest left right = left
    rw [latest, le_iff.1 ordered]
    rfl
  max_eq_right left right reversed := by
    change latest left right = right
    rw [le_iff, Bool.not_eq_false] at reversed
    rw [latest, reversed]
    rfl

end UsageForecast.Instant
