import Mathlib
import UsageForecast.Proofs.BucketWeights

/-!
# Geometric layouts

Without rounding, the bucket starts of a layout increase strictly if its
ratio is above one, as long as the indices are signed 32-bit words.  With the
logarithm of the real numbers a value is found in the bucket in which it lies,
unless it lies beyond all buckets.  All of this rests on one comparison: a
bucket starts at or before a value iff its index, as a signed word, is not
above the real index of the value.
-/

namespace UsageForecast.Layout

open Exact

/-- An index as a signed 32-bit word. -/
def word (index : Nat) : Int := (index : Int).bmod UInt32.size

theorem word_of_lt {index : Nat} (signed : index < 2 ^ 31) :
    word index = index := by
  have size : UInt32.size = 2 ^ 32 := rfl
  unfold word
  rw [Int.bmod_eq_of_le] <;> omega

theorem word_le_sub {index : Nat} (beyond : 2 ^ 31 ≤ index) :
    word index ≤ index - 2 ^ 32 := by
  have reduced : word index =
      if (index : Int) % 2 ^ 32 < 2 ^ 31 then (index : Int) % 2 ^ 32
      else (index : Int) % 2 ^ 32 - 2 ^ 32 := Int.bmod_def _ _
  omega

theorem word_le (index : Nat) : word index ≤ index := by
  rcases Nat.lt_or_ge index (2 ^ 31) with signed | beyond
  · exact (word_of_lt signed).le
  · have below := word_le_sub beyond
    omega

section

variable {K : Type} [Field K] [LinearOrder K] [FloorRing K]
  [Transcendental K]

/-- The buckets below an index start one after the other. -/
def Ascending (layout : Layout K) (count : Nat) : Prop :=
  ∀ index < count, layout.start index < layout.start (index + 1)

/-- A value that does not lie beyond all buckets lies in the one that is found
for it. -/
def Placing (layout : Layout K) : Prop :=
  ∀ value, 0 ≤ value → value < layout.start layout.bucketCount →
    layout.start (layout.find value) ≤ value ∧
      value < layout.start (layout.find value + 1)

theorem Ascending.start_mono {layout : Layout K} {count : Nat}
    (ascending : layout.Ascending count) {lower upper : Nat}
    (ordered : lower ≤ upper) (within : upper ≤ count) :
    layout.start lower ≤ layout.start upper := by
  induction upper, ordered using Nat.le_induction with
  | base => exact le_rfl
  | succ upper ordered induction =>
      exact (induction (by omega)).trans (ascending upper within).le

theorem start_eq_word (layout : Layout K) (index : Nat) :
    layout.start index =
      layout.firstBucketSize * (layout.ratio ^ word index - 1) /
        (layout.ratio - 1) := by
  unfold start
  simp only [power_eq]
  rfl

theorem start_eq (layout : Layout K) {index : Nat}
    (signed : index < 2 ^ 31) :
    layout.start index =
      layout.firstBucketSize * (layout.ratio ^ index - 1) /
        (layout.ratio - 1) := by
  rw [start_eq_word, word_of_lt signed, zpow_natCast]

variable [IsStrictOrderedRing K]

theorem start_succ (layout : Layout K) (ratio : 1 < layout.ratio)
    {index : Nat} (signed : index + 1 < 2 ^ 31) :
    layout.start (index + 1) =
      layout.start index + layout.firstBucketSize * layout.ratio ^ index := by
  have different : layout.ratio - 1 ≠ 0 := (sub_pos.2 ratio).ne'
  rw [start_eq layout signed, start_eq layout (Nat.lt_of_succ_lt signed)]
  field_simp
  ring

theorem ascending_of_ratio {layout : Layout K}
    (first : 0 < layout.firstBucketSize) (ratio : 1 < layout.ratio)
    {count : Nat} (signed : count < 2 ^ 31) :
    layout.Ascending count := by
  intro index within
  rw [start_succ layout ratio (by omega)]
  have size : 0 < layout.firstBucketSize * layout.ratio ^ index := by
    positivity
  linarith

end

/-- The layouts whose bucket sizes grow. -/
structure Growing (layout : Layout ℝ) : Prop where
  first : 0 < layout.firstBucketSize
  ratio : 1 < layout.ratio

/-- The index of a value is a 64-bit word and at most the last one. -/
theorem find_eq_min (layout : Layout ℝ) {value : ℝ} (nonneg : 0 ≤ value) :
    layout.find value =
      min (min ⌊layout.rawIndex value⌋₊ (UInt64.size - 1))
        layout.lastIndex := by
  have index : Analytic.floorIndex (layout.rawIndex value) =
      min ⌊layout.rawIndex value⌋₊ (UInt64.size - 1) := by
    rw [← Int.floor_toNat]
    rfl
  unfold find
  split
  next none =>
    have zero : layout.rawIndex value = 0 := by
      rw [le_antisymm none nonneg, rawIndex]
      simp [Analytic.log, Transcendental.log]
    simp [zero]
  next => rw [index]

namespace Growing

variable {layout : Layout ℝ} (growing : layout.Growing)

include growing

theorem scaled_pos {value : ℝ} (nonneg : 0 ≤ value) :
    0 < value * (layout.ratio - 1) / layout.firstBucketSize + 1 := by
  obtain ⟨first, ratio⟩ := growing
  have growth : 0 < layout.ratio - 1 := sub_pos.2 ratio
  positivity

theorem le_rawIndex_iff {value : ℝ} (nonneg : 0 ≤ value) (exponent : Int) :
    (exponent : ℝ) ≤ layout.rawIndex value ↔
      layout.ratio ^ exponent ≤
        value * (layout.ratio - 1) / layout.firstBucketSize + 1 := by
  have raw : layout.rawIndex value =
      Real.log (value * (layout.ratio - 1) / layout.firstBucketSize + 1) /
        Real.log layout.ratio := rfl
  rw [raw, le_div_iff₀ (Real.log_pos growing.ratio), ← Real.log_zpow,
    Real.log_le_log_iff (zpow_pos (one_pos.trans growing.ratio) _)
      (growing.scaled_pos nonneg)]

/-- A bucket starts at or before a value iff its index, as a signed word, is
not above the real index of the value. -/
theorem start_le_iff {value : ℝ} (nonneg : 0 ≤ value) (index : Nat) :
    layout.start index ≤ value ↔
      (word index : ℝ) ≤ layout.rawIndex value := by
  rw [growing.le_rawIndex_iff nonneg, start_eq_word,
    div_le_iff₀ (sub_pos.2 growing.ratio), ← sub_le_iff_le_add,
    le_div_iff₀ growing.first, mul_comm]

theorem rawIndex_mono {lower upper : ℝ} (nonneg : 0 ≤ lower)
    (ordered : lower ≤ upper) :
    layout.rawIndex lower ≤ layout.rawIndex upper := by
  have growth : 0 ≤ layout.ratio - 1 := (sub_pos.2 growing.ratio).le
  have scaled := growing.scaled_pos nonneg
  refine div_le_div_of_nonneg_right (Real.log_le_log scaled ?_)
    (Real.log_pos growing.ratio).le
  have positive := growing.first
  gcongr

theorem rawIndex_nonneg {value : ℝ} (nonneg : 0 ≤ value) :
    0 ≤ layout.rawIndex value := by
  have zero := growing.le_rawIndex_iff nonneg 0
  rw [Int.cast_zero, zpow_zero] at zero
  refine zero.2 (le_add_of_nonneg_left ?_)
  exact div_nonneg (mul_nonneg nonneg (sub_pos.2 growing.ratio).le)
    growing.first.le

theorem find_le_rawIndex {value : ℝ} (nonneg : 0 ≤ value) :
    (layout.find value : ℝ) ≤ layout.rawIndex value := by
  rw [find_eq_min layout nonneg]
  have least : min (min ⌊layout.rawIndex value⌋₊ (UInt64.size - 1))
      layout.lastIndex ≤ ⌊layout.rawIndex value⌋₊ := by omega
  exact (Nat.cast_le.2 least).trans
    (Nat.floor_le (growing.rawIndex_nonneg nonneg))

theorem start_find_le {value : ℝ} (nonneg : 0 ≤ value) :
    layout.start (layout.find value) ≤ value := by
  rw [growing.start_le_iff nonneg]
  exact (Int.cast_le.2 (word_le _)).trans (growing.find_le_rawIndex nonneg)

/-- The real index of a value is less than one above the index that is found
for it, unless the last bucket is found for a value beyond the largest one. -/
theorem rawIndex_lt_find_add_one {value : ℝ} (nonneg : 0 ≤ value)
    (signed : layout.find value + 1 < 2 ^ 31)
    (inside : layout.find value ≠ layout.lastIndex ∨
      value ≤ layout.maxValue) :
    layout.rawIndex value < layout.find value + 1 := by
  have wide : UInt64.size = 2 ^ 64 := rfl
  have found := find_eq_min layout nonneg
  by_cases whole : layout.find value = ⌊layout.rawIndex value⌋₊
  · rw [whole]
    exact Nat.lt_floor_add_one _
  · -- The last index is not below the real index of the largest value.
    have last : layout.find value = layout.lastIndex := by omega
    have largest : value ≤ layout.maxValue :=
      inside.resolve_left (not_not_intro last)
    have ceiling : layout.lastIndex =
        min ⌈layout.rawIndex layout.maxValue⌉.toNat (UInt64.size - 1) := rfl
    have reached : ⌈layout.rawIndex layout.maxValue⌉ ≤ layout.find value := by
      omega
    have below : layout.rawIndex value ≤ layout.find value :=
      (growing.rawIndex_mono nonneg largest).trans
        ((Int.le_ceil _).trans (mod_cast reached))
    exact below.trans_lt (lt_add_one _)

theorem lt_start_find_add_one_iff {value : ℝ} (nonneg : 0 ≤ value)
    (inside : layout.find value ≠ layout.lastIndex ∨
      value ≤ layout.maxValue) :
    value < layout.start (layout.find value + 1) ↔
      layout.find value + 1 < 2 ^ 31 := by
  rw [← not_le, growing.start_le_iff nonneg, not_le]
  constructor
  · intro above
    by_contra beyond
    -- As a signed word the next index is not even above the one found.
    have below := word_le_sub (not_lt.1 beyond)
    have least : word (layout.find value + 1) ≤ layout.find value := by
      omega
    exact absurd above (not_lt.2 ((Int.cast_le.2 least).trans
      (growing.find_le_rawIndex nonneg)))
  · intro signed
    rw [word_of_lt signed]
    exact_mod_cast growing.rawIndex_lt_find_add_one nonneg signed inside

theorem maxValue_lt_iff (largest : 0 ≤ layout.maxValue) :
    layout.maxValue < layout.start layout.bucketCount ↔
      layout.bucketCount < 2 ^ 31 := by
  have wide : UInt64.size = 2 ^ 64 := rfl
  have ceiling : layout.bucketCount =
      min ⌈layout.rawIndex layout.maxValue⌉.toNat (UInt64.size - 1) + 1 := rfl
  have nonneg : 0 ≤ ⌈layout.rawIndex layout.maxValue⌉ :=
    Int.ceil_nonneg (growing.rawIndex_nonneg largest)
  have above := Int.ceil_lt_add_one (layout.rawIndex layout.maxValue)
  rw [← not_le, growing.start_le_iff largest, not_le]
  constructor
  · intro reached
    by_contra beyond
    have below := word_le_sub (not_lt.1 beyond)
    have least : word layout.bucketCount ≤
        ⌈layout.rawIndex layout.maxValue⌉ - 1 := by omega
    have before : (word layout.bucketCount : ℝ) ≤
        ⌈layout.rawIndex layout.maxValue⌉ - 1 := mod_cast least
    linarith
  · intro signed
    rw [word_of_lt signed]
    have beyond : ⌈layout.rawIndex layout.maxValue⌉ < layout.bucketCount := by
      omega
    exact (Int.le_ceil _).trans_lt (mod_cast beyond)

end Growing

/-- The layouts whose bucket sizes grow and whose indices are words. -/
structure Geometric (layout : Layout ℝ) : Prop where
  first : 0 < layout.firstBucketSize
  ratio : 1 < layout.ratio
  signed : layout.bucketCount < 2 ^ 31

namespace Geometric

variable {layout : Layout ℝ}

theorem growing (geometric : layout.Geometric) : layout.Growing :=
  ⟨geometric.first, geometric.ratio⟩

theorem ascending (geometric : layout.Geometric) :
    layout.Ascending layout.bucketCount :=
  ascending_of_ratio geometric.first geometric.ratio geometric.signed

theorem placing (geometric : layout.Geometric) : layout.Placing := by
  intro value nonneg below
  refine ⟨geometric.growing.start_find_le nonneg, ?_⟩
  by_cases last : layout.find value = layout.lastIndex
  · rwa [last]
  · have inside := layout.find_lt value
    exact (geometric.growing.lt_start_find_add_one_iff nonneg (.inl last)).2
      (lt_of_le_of_lt inside geometric.signed)

theorem maxValue_lt (geometric : layout.Geometric)
    (nonneg : 0 ≤ layout.maxValue) :
    layout.maxValue < layout.start layout.bucketCount :=
  (geometric.growing.maxValue_lt_iff nonneg).2 geometric.signed

end Geometric

/-- A power of the ratio that reaches the largest value bounds the number of
buckets. -/
theorem geometric_of_le {layout : Layout ℝ}
    (first : 0 < layout.firstBucketSize) (ratio : 1 < layout.ratio)
    (largest : 0 ≤ layout.maxValue) {bound : Nat}
    (signed : bound + 1 < 2 ^ 31)
    (reached : layout.maxValue * (layout.ratio - 1) / layout.firstBucketSize +
      1 ≤ layout.ratio ^ bound) : layout.Geometric := by
  refine ⟨first, ratio, ?_⟩
  have growth : 0 < layout.ratio - 1 := sub_pos.2 ratio
  have raw : layout.rawIndex layout.maxValue ≤ bound := by
    refine (div_le_iff₀ (Real.log_pos ratio)).2 ?_
    rw [← Real.log_pow]
    exact Real.log_le_log (by positivity) reached
  have ceiling : ⌈layout.rawIndex layout.maxValue⌉.toNat ≤ bound :=
    Int.toNat_le.2 (Int.ceil_le.2 (mod_cast raw))
  have last : layout.lastIndex ≤ ⌈layout.rawIndex layout.maxValue⌉.toNat :=
    Nat.min_le_left _ _
  unfold bucketCount
  omega

theorem geometric_forResource (resource : Resource) :
    (forResource resource : Layout ℝ).Geometric := by
  have signed : 600 + 1 < 2 ^ 31 := by decide
  -- Over fifteen buckets the sizes more than double.
  have doubled : (2 : ℝ) ^ 40 ≤ (21 / 20) ^ 600 := by
    rw [show 600 = 15 * 40 from rfl, pow_mul]
    gcongr
    norm_num
  refine geometric_of_le ?_ ?_ ?_ signed (le_trans ?_ (le_trans doubled ?_))
  all_goals cases resource <;> norm_num [forResource, scientific_eq]

end UsageForecast.Layout
