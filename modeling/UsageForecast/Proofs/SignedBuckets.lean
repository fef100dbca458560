import Mathlib
import UsageForecast.Proofs.GeometricLayout

/-!
# Buckets with signed indices

With the logarithm, the whole part and the powers of the real numbers, the
bucket that is found for a value and the starts of the buckets fit together
for every layout with growing buckets, as long as the indices are signed
32-bit words.  Further up an index counts as a negative exponent, so that the
starts begin again below zero and a value for which such a bucket is found
lies beyond its end.
-/

namespace UsageForecast.Layout

open Exact

namespace Growing

variable {layout : Layout ℝ} (growing : layout.Growing)

include growing

theorem start_lt_start_iff {lower upper : Nat} :
    layout.start lower < layout.start upper ↔ word lower < word upper := by
  have growth : 0 < layout.ratio - 1 := sub_pos.2 growing.ratio
  rw [start_eq_word, start_eq_word, div_lt_div_iff_of_pos_right growth,
    mul_lt_mul_iff_right₀ growing.first, sub_lt_sub_iff_right,
    zpow_lt_zpow_iff_right₀ growing.ratio]

theorem start_strictMonoOn_iff {count : Nat} :
    StrictMonoOn layout.start (Set.Iic count) ↔ count < 2 ^ 31 := by
  constructor
  · intro ascending
    by_contra beyond
    -- The first index that is no signed word is the least exponent.
    have edge : 2 ^ 31 - 1 < 2 ^ 31 := by decide
    have within : 2 ^ 31 ≤ count := not_lt.1 beyond
    have above := growing.start_lt_start_iff.1
      (ascending (edge.le.trans within) within edge)
    rw [word_of_lt edge] at above
    have below := word_le_sub (le_refl (2 ^ 31))
    omega
  · intro signed lower lowerWithin upper upperWithin ordered
    rw [growing.start_lt_start_iff,
      word_of_lt (lowerWithin.trans_lt signed),
      word_of_lt (upperWithin.trans_lt signed)]
    exact_mod_cast ordered

theorem find_mono : Monotone layout.find := by
  intro lower upper ordered
  rcases le_or_gt lower 0 with none | positive
  · rw [find, if_pos none]
    exact Nat.zero_le _
  · rw [find_eq_min layout positive.le,
      find_eq_min layout (positive.le.trans ordered)]
    have floors := Nat.floor_mono (growing.rawIndex_mono positive.le ordered)
    exact min_le_min (min_le_min floors le_rfl) le_rfl

end Growing

/-- Bucket starts increase strictly from zero up to an index iff it is a
signed 32-bit word.  Larger values are found in later buckets, and always in
one of the layout.  A bucket never starts above a value for which it is found;
it ends above the value iff the index after it is a signed word, unless the
value is beyond the largest one of the layout and the bucket is the last one.
All values up to the largest one lie below the end of the last bucket iff the
number of buckets is a signed word. -/
theorem buckets_fit_values (layout : Layout ℝ)
    (first : 0 < layout.firstBucketSize) (ratio : 1 < layout.ratio)
    (largest : 0 ≤ layout.maxValue) :
    layout.start 0 = 0 ∧
    (∀ count, StrictMonoOn layout.start (Set.Iic count) ↔ count < 2 ^ 31) ∧
    Monotone layout.find ∧
    (∀ value, layout.find value < layout.bucketCount) ∧
    (∀ value, 0 ≤ value →
      layout.start (layout.find value) ≤ value ∧
      (layout.find value ≠ layout.lastIndex ∨ value ≤ layout.maxValue →
        (value < layout.start (layout.find value + 1) ↔
          layout.find value + 1 < 2 ^ 31))) ∧
    ((∀ value ≤ layout.maxValue, value < layout.start layout.bucketCount) ↔
      layout.bucketCount < 2 ^ 31) := by
  have growing : layout.Growing := ⟨first, ratio⟩
  refine ⟨?_, fun _ => growing.start_strictMonoOn_iff, growing.find_mono,
    layout.find_lt, fun value nonneg => ⟨growing.start_find_le nonneg,
      growing.lt_start_find_add_one_iff nonneg⟩, ?_⟩
  · rw [start_eq layout (by decide), pow_zero, sub_self, mul_zero, zero_div]
  · rw [← growing.maxValue_lt_iff largest]
    exact ⟨fun below => below _ le_rfl,
      fun above value ordered => ordered.trans_lt above⟩

theorem cores_fit_buckets :
    let layout : Layout ℝ := .forResource .cpu
    0 < layout.firstBucketSize ∧ 1 < layout.ratio ∧ 0 ≤ layout.maxValue ∧
      layout.bucketCount < 2 ^ 31 ∧ layout.find (1 / 2) ≤ layout.find 3 ∧
      layout.start (layout.find 3) ≤ 3 ∧
      3 < layout.start (layout.find 3 + 1) ∧
      1000 < layout.start layout.bucketCount := by
  intro layout
  have geometric := geometric_forResource .cpu
  have largest : layout.maxValue = 1000 := by
    norm_num [layout, forResource, scientific_eq]
  have signed := geometric.signed
  have nonneg : 0 ≤ layout.maxValue := by norm_num [largest]
  obtain ⟨-, -, mono, below, inside, covers⟩ :=
    buckets_fit_values layout geometric.first geometric.ratio nonneg
  obtain ⟨starts, ends⟩ := inside 3 (by norm_num)
  refine ⟨geometric.first, geometric.ratio, nonneg, signed,
    mono (by norm_num), starts, ?_, covers.2 signed 1000 largest.ge⟩
  exact (ends (.inr (by norm_num [largest]))).2
    (lt_of_le_of_lt (below 3) signed)

section Fine

/-- A layout whose buckets hardly grow: the ratio exceeds one by one part of
a count. -/
noncomputable def fine (count : Nat) : Layout ℝ :=
  ⟨(count : ℝ)⁻¹, 1 + (count : ℝ)⁻¹, 100⟩

variable {count : Nat} (positive : 0 < count)

include positive

theorem growing_fine : (fine count).Growing := by
  have size : (0 : ℝ) < (count : ℝ)⁻¹ := by positivity
  exact ⟨size, lt_add_of_pos_right 1 size⟩

theorem le_rawIndex_fine_iff {value : ℝ} (nonneg : 0 ≤ value) (times : Nat) :
    ((times * count : Nat) : ℝ) ≤ (fine count).rawIndex value ↔
      ((1 + (count : ℝ)⁻¹) ^ count) ^ times ≤ value + 1 := by
  have size : (count : ℝ) ≠ 0 := (Nat.cast_pos.2 positive).ne'
  have power := (growing_fine positive).le_rawIndex_iff nonneg
    (times * count : Nat)
  rw [zpow_natCast, Int.cast_natCast] at power
  rw [power, fine, add_sub_cancel_left, mul_div_assoc,
    div_self (inv_ne_zero size), mul_one, mul_comm times, pow_mul]

/-- Over as many buckets as the count says, sizes double at least and do not
grow threefold. -/
theorem fine_growth :
    (2 : ℝ) ≤ (1 + (count : ℝ)⁻¹) ^ count ∧
      (1 + (count : ℝ)⁻¹) ^ count ≤ 3 := by
  have size : (count : ℝ) ≠ 0 := (Nat.cast_pos.2 positive).ne'
  have nonneg : (0 : ℝ) ≤ (count : ℝ)⁻¹ := by positivity
  have bernoulli := one_add_mul_le_pow (R := ℝ) (a := (count : ℝ)⁻¹)
    (by linarith) count
  rw [mul_inv_cancel₀ size] at bernoulli
  exact ⟨by linarith, Real.one_add_inv_pow_le_exp.trans
    (Real.exp_one_lt_three.le)⟩

/-- Eight lies between twice and four times the count, a hundred above. -/
theorem rawIndex_fine :
    ((2 * count : Nat) : ℝ) ≤ (fine count).rawIndex 8 ∧
      (fine count).rawIndex 8 < (4 * count : Nat) ∧
      ((4 * count : Nat) : ℝ) ≤ (fine count).rawIndex 100 := by
  obtain ⟨doubled, atMost⟩ := fine_growth positive
  have eight : (0 : ℝ) ≤ 8 := by norm_num
  have hundred : (0 : ℝ) ≤ 100 := by norm_num
  rw [← not_le, le_rawIndex_fine_iff positive eight,
    le_rawIndex_fine_iff positive eight,
    le_rawIndex_fine_iff positive hundred]
  refine ⟨?_, ?_, ?_⟩
  · calc ((1 + (count : ℝ)⁻¹) ^ count) ^ 2 ≤ 3 ^ 2 := by gcongr
      _ ≤ 8 + 1 := by norm_num
  · have above : (2 : ℝ) ^ 4 ≤ ((1 + (count : ℝ)⁻¹) ^ count) ^ 4 := by gcongr
    exact not_le.2 (lt_of_lt_of_le (by norm_num) above)
  · calc ((1 + (count : ℝ)⁻¹) ^ count) ^ 4 ≤ 3 ^ 4 := by gcongr
      _ ≤ 100 + 1 := by norm_num

end Fine

/-- With more buckets than signed words, starts fall below zero, a value can
lie beyond a bucket that is not the last one, and the largest value lies
beyond all buckets. -/
theorem value_beyond_found_bucket :
    let layout := fine (2 ^ 30)
    0 < layout.firstBucketSize ∧ 1 < layout.ratio ∧ 0 ≤ layout.maxValue ∧
      layout.start (2 ^ 31) < layout.start 0 ∧
      layout.find 8 ≠ layout.lastIndex ∧ 8 ≤ layout.maxValue ∧
      layout.start (layout.find 8 + 1) ≤ 8 ∧
      layout.start layout.bucketCount ≤ layout.maxValue := by
  intro layout
  have positive : 0 < 2 ^ 30 := by decide
  have growing : layout.Growing := growing_fine positive
  obtain ⟨twice, fourTimes, beyond⟩ := rawIndex_fine positive
  have eight : (0 : ℝ) ≤ 8 := by norm_num
  have hundred : (8 : ℝ) ≤ layout.maxValue := by norm_num [layout, fine]
  have wide : UInt64.size = 2 ^ 64 := rfl
  have ceiling : layout.lastIndex =
      min ⌈layout.rawIndex 100⌉.toNat (UInt64.size - 1) := rfl
  have last : 4 * 2 ^ 30 ≤ layout.lastIndex := by
    have reached : ((4 * 2 ^ 30 : Nat) : Int) ≤ ⌈layout.rawIndex 100⌉ :=
      Int.cast_le.1 ((mod_cast beyond : _ ≤ _).trans (Int.le_ceil _))
    omega
  have least : 2 * 2 ^ 30 ≤ ⌊layout.rawIndex 8⌋₊ := Nat.le_floor twice
  have greatest : ⌊layout.rawIndex 8⌋₊ < 4 * 2 ^ 30 :=
    (Nat.floor_lt (growing.rawIndex_nonneg eight)).2 fourTimes
  have found := find_eq_min layout eight
  have inside : layout.find 8 ≠ layout.lastIndex := by omega
  refine ⟨growing.first, growing.ratio, eight.trans hundred, ?_, inside,
    hundred, ?_, ?_⟩
  · rw [growing.start_lt_start_iff]
    decide
  · rw [← not_lt, growing.lt_start_find_add_one_iff eight (.inl inside)]
    omega
  · rw [← not_lt, growing.maxValue_lt_iff (eight.trans hundred)]
    unfold bucketCount
    omega

end UsageForecast.Layout
