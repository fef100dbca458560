import Mathlib
import UsageForecast.Proofs.BucketWeights
import UsageForecast.Proofs.SavedEstimator

/-!
# Weights that decay

Without rounding, the weights of a histogram stay positive and add up to its
total whatever samples are added and however often all weights decay.  Decay
by one factor and then by another is decay by their product, although light
buckets are dropped in between: what the first factor drops is too light after
both.  As long as no bucket is dropped, decay leaves the quantiles as they
are, and a saved histogram is read back as it was.
-/

namespace UsageForecast.Histogram

open Exact

section Operations

variable {α : Type}

/-- What can be done with a histogram once it has been created. -/
inductive Operation (α : Type) where
  | add (value weight : α)
  | decay (factor : α)

variable [Analytic α]

def perform (histogram : Histogram α) : Operation α → Histogram α
  | .add value weight => histogram.add value weight
  | .decay factor => histogram.decay factor

def performAll (histogram : Histogram α) (operations : List (Operation α)) :
    Histogram α :=
  operations.foldl perform histogram

end Operations

variable {K : Type} [Field K] [LinearOrder K] [FloorRing K]
  [Transcendental K]

theorem add_of_nonpos (histogram : Histogram K) (value : K) {weight : K}
    (none : weight ≤ 0) : histogram.add value weight = histogram :=
  if_pos none

theorem decay_of_one_le (histogram : Histogram K) {factor : K}
    (whole : 1 ≤ factor) : histogram.decay factor = histogram :=
  if_pos whole

/-- The weights that a factor below one leaves. -/
noncomputable def faded (weights : SortedMap Nat K) (factor : K) :
    SortedMap Nat K :=
  (weights.mapValues fun _ weight => weight * factor).filter
    fun _ weight => decide (leastWeight ≤ weight)

theorem decay_of_lt_one (histogram : Histogram K) {factor : K}
    (shrinks : factor < 1) :
    histogram.decay factor =
      { histogram with
        weights := faded histogram.weights factor
        total := (faded histogram.weights factor).values.sum } := by
  unfold Histogram.decay
  rw [if_neg shrinks.not_ge, ← sum_eq]
  rfl

theorem find?_faded (weights : SortedMap Nat K) (factor : K) (index : Nat) :
    (faded weights factor).find? index =
      ((weights.find? index).map fun weight => weight * factor).filter
        fun weight => decide (leastWeight ≤ weight) := by
  unfold faded
  rw [SortedMap.find?_filter, SortedMap.find?_mapValues]

theorem keys_faded_of_le {weights : SortedMap Nat K} {factor : K}
    (heavy : ∀ entry ∈ weights.entries, leastWeight ≤ entry.2 * factor) :
    (faded weights factor).keys = weights.keys := by
  have kept : (faded weights factor).entries =
      weights.entries.map fun entry => (entry.1, entry.2 * factor) := by
    refine List.filter_eq_self.2 fun entry member => ?_
    obtain ⟨earlier, listed, rfl⟩ := List.mem_map.1 member
    exact decide_eq_true (heavy earlier listed)
  rw [SortedMap.keys, kept, List.map_map]
  rfl

/-- If decay drops no bucket, it scales all weights. -/
theorem entries_faded {weights : SortedMap Nat K} {factor : K}
    (kept : (faded weights factor).keys = weights.keys) :
    (faded weights factor).entries =
      weights.entries.map fun entry => (entry.1, entry.2 * factor) := by
  have same := congrArg List.length kept
  rw [SortedMap.keys, SortedMap.keys, List.length_map, List.length_map]
    at same
  exact List.filter_sublist.eq_of_length (same.trans (List.length_map _).symm)

omit [FloorRing K] [Transcendental K] in
theorem Balanced.pos_of_find? {histogram : Histogram K}
    (balanced : histogram.Balanced) {index : Nat} {weight : K}
    (found : histogram.weights.find? index = some weight) : 0 < weight :=
  balanced.positive _ (SortedMap.find?_eq_some_iff.1 found)

theorem Balanced.total_faded {histogram : Histogram K}
    (balanced : histogram.Balanced) {factor : K}
    (kept : (faded histogram.weights factor).keys = histogram.weights.keys) :
    (faded histogram.weights factor).values.sum =
      histogram.total * factor := by
  rw [balanced.total, SortedMap.values, entries_faded kept, List.map_map,
    SortedMap.values, ← List.sum_map_mul_right]
  rfl

variable [IsStrictOrderedRing K]

/-- What holds of a histogram of a layout at all times. -/
structure Sound (layout : Layout K) (histogram : Histogram K) : Prop where
  layout_eq : histogram.layout = layout
  balanced : histogram.Balanced
  within : histogram.Within layout.bucketCount

theorem Sound.perform {layout : Layout K} {histogram : Histogram K}
    (sound : histogram.Sound layout) (operation : Operation K) :
    (histogram.perform operation).Sound layout := by
  obtain ⟨rfl, balanced, within⟩ := sound
  cases operation with
  | add value weight =>
      rcases le_or_gt weight 0 with none | positive
      · rw [Histogram.perform, add_of_nonpos _ _ none]
        exact ⟨rfl, balanced, within⟩
      · exact ⟨add_layout _ _ _, balanced.add positive,
          within.add le_rfl positive⟩
  | decay factor =>
      exact ⟨decay_layout _ _, balanced.decay factor, within.decay factor⟩

theorem sound_performAll (layout : Layout K)
    (operations : List (Operation K)) :
    ((empty layout).performAll operations).Sound layout :=
  List.foldlRecOn operations Histogram.perform
    ⟨rfl, balanced_empty layout, nofun⟩
    fun _ sound operation _ => sound.perform operation

omit [FloorRing K] [Transcendental K] in
theorem Balanced.total_eq_zero_iff {histogram : Histogram K}
    (balanced : histogram.Balanced) :
    histogram.total = 0 ↔ histogram.isEmpty = true := by
  rw [balanced.total, isEmpty, SortedMap.isEmpty, List.isEmpty_iff,
    SortedMap.values]
  constructor
  · intro zero
    by_contra some
    refine (List.sum_pos _ ?_ (mt List.map_eq_nil_iff.1 some)).ne' zero
    intro weight member
    obtain ⟨entry, listed, rfl⟩ := List.mem_map.1 member
    exact balanced.positive entry listed
  · intro none
    rw [none]
    rfl

/-- A bucket that the first factor drops is too light after the second one as
well. -/
theorem Balanced.faded_faded {histogram : Histogram K}
    (balanced : histogram.Balanced) {first second : K} (nonneg : 0 ≤ first)
    (shrinks : second < 1) :
    faded (faded histogram.weights first) second =
      faded histogram.weights (first * second) := by
  refine SortedMap.eq_of_find?_eq fun index => ?_
  rw [find?_faded, find?_faded, find?_faded]
  cases found : histogram.weights.find? index with
  | none => rfl
  | some weight =>
      have positive := balanced.pos_of_find? found
      have lighter : weight * (first * second) ≤ weight * first :=
        mul_le_mul_of_nonneg_left
          (mul_le_of_le_one_right nonneg shrinks.le) positive.le
      by_cases kept : leastWeight ≤ weight * first
      · simp [Option.filter, kept, mul_assoc]
      · have dropped : ¬leastWeight ≤ weight * (first * second) :=
          fun heavy => kept (heavy.trans lighter)
        simp [Option.filter, kept, dropped]

theorem Balanced.decay_decay {histogram : Histogram K}
    (balanced : histogram.Balanced) {first second : K} (nonneg : 0 ≤ first)
    (firstShrinks : first < 1) (secondShrinks : second < 1) :
    (histogram.decay first).decay second =
      histogram.decay (first * second) := by
  have product : first * second < 1 :=
    (mul_le_of_le_one_right nonneg secondShrinks.le).trans_lt firstShrinks
  rw [decay_of_lt_one _ firstShrinks, decay_of_lt_one _ secondShrinks,
    decay_of_lt_one _ product, balanced.faded_faded nonneg secondShrinks]

theorem Balanced.decay_iterate {histogram : Histogram K}
    (balanced : histogram.Balanced) {factor : K} (nonneg : 0 ≤ factor)
    (shrinks : factor < 1) (cycles : Nat) :
    (fun histogram : Histogram K => histogram.decay factor)^[cycles]
      histogram = histogram.decay (factor ^ cycles) := by
  induction cycles with
  | zero =>
      rw [pow_zero, decay_of_one_le _ le_rfl]
      rfl
  | succ cycles induction =>
      rw [Function.iterate_succ_apply', induction, pow_succ]
      -- A power of the factor is below one unless it is the empty one.
      rcases Nat.eq_zero_or_pos cycles with rfl | positive
      · rw [pow_zero, one_mul, decay_of_one_le _ le_rfl]
      · exact balanced.decay_decay (pow_nonneg nonneg cycles)
          (pow_lt_one₀ nonneg shrinks positive.ne') shrinks

/-- A walk over scaled weights to a scaled target ends where the walk over the
weights ends. -/
theorem locate_scaled (layout : Layout K) {factor : K} (positive : 0 < factor)
    (target cumulative : K) (last : Nat) (entries : List (Nat × K)) :
    locate layout (target * factor) (cumulative * factor) last
        (entries.map fun entry => (entry.1, entry.2 * factor)) =
      locate layout target cumulative last entries := by
  induction entries generalizing cumulative last with
  | nil => rfl
  | cons entry rest induction =>
      obtain ⟨index, weight⟩ := entry
      rw [List.map_cons]
      unfold locate
      simp only [← add_mul, ← sub_mul, mul_le_mul_iff_left₀ positive,
        mul_pos_iff_of_pos_right positive,
        mul_div_mul_right _ _ positive.ne', induction]

/-- A factor that leaves a bucket is positive. -/
theorem Balanced.factor_pos {histogram : Histogram K}
    (balanced : histogram.Balanced) {factor : K}
    (kept : (faded histogram.weights factor).keys = histogram.weights.keys)
    (some : histogram.weights.entries ≠ []) : 0 < factor := by
  obtain ⟨entry, listed⟩ := List.exists_mem_of_ne_nil _ some
  have left : (entry.1, entry.2 * factor) ∈
      (faded histogram.weights factor).entries := by
    rw [entries_faded kept]
    exact List.mem_map_of_mem listed
  have heavy : leastWeight ≤ entry.2 * factor :=
    of_decide_eq_true (List.mem_filter.1 left).2
  exact (mul_pos_iff_of_pos_left (balanced.positive entry listed)).1
    (leastWeight_pos.trans_le heavy)

theorem Balanced.quantile?_decay {histogram : Histogram K}
    (balanced : histogram.Balanced) {factor : K}
    (kept : (histogram.decay factor).weights.keys = histogram.weights.keys)
    (share : K) :
    (histogram.decay factor).quantile? share = histogram.quantile? share := by
  rcases le_or_gt 1 factor with whole | shrinks
  · rw [decay_of_one_le _ whole]
  · rw [decay_of_lt_one _ shrinks] at kept ⊢
    unfold quantile?
    rw [balanced.total_faded kept]
    -- Only the weight of a bucket shows that the factor is positive.
    by_cases none : histogram.weights.entries = []
    · have zero : histogram.total = 0 :=
        balanced.total_eq_zero_iff.2 (List.isEmpty_iff.2 none)
      have scaled : histogram.total * factor = 0 := by rw [zero, zero_mul]
      rw [if_pos scaled.le, if_pos zero.le]
    · have positive := balanced.factor_pos kept none
      have sign : histogram.total * factor ≤ 0 ↔ histogram.total ≤ 0 := by
        rw [← not_lt, mul_pos_iff_of_pos_right positive, not_lt]
      have walk := locate_scaled histogram.layout positive
        (Scalar.clamp share 0 1 * histogram.total) 0 0
        histogram.weights.entries
      rw [zero_mul, mul_assoc, ← entries_faded kept] at walk
      simp only [sign, walk]

/-- Whatever is added and decayed, the weights of a histogram are positive and
add up to its total, which is zero only without buckets, and all indices are
below the number of buckets.  Decay by two factors in turn is decay by their
product, and decay in every cycle is decay by a power.  Decay that drops no
bucket leaves every quantile, and what is saved is read back. -/
theorem weights_of_history (layout : Layout K)
    (operations : List (Operation K)) :
    let histogram := (empty layout).performAll operations
    histogram.layout = layout ∧
    histogram.total = histogram.weights.values.sum ∧
    (∀ weight ∈ histogram.weights.values, 0 < weight) ∧
    (histogram.total = 0 ↔ histogram.isEmpty = true) ∧
    (∀ index ∈ histogram.weights.keys, index < layout.bucketCount) ∧
    (∀ first second, 0 ≤ first → first < 1 → 0 ≤ second → second < 1 →
      (histogram.decay first).decay second =
        histogram.decay (first * second)) ∧
    (∀ factor, 0 ≤ factor → factor < 1 → ∀ cycles,
      (fun histogram : Histogram K => histogram.decay factor)^[cycles]
        histogram = histogram.decay (factor ^ cycles)) ∧
    (∀ factor,
      (histogram.decay factor).weights.keys = histogram.weights.keys →
        ∀ share, (histogram.decay factor).quantile? share =
          histogram.quantile? share) ∧
    ofCheckpoint histogram.checkpoint = histogram := by
  intro histogram
  obtain ⟨layout_eq, balanced, within⟩ : histogram.Sound layout :=
    sound_performAll layout operations
  refine ⟨layout_eq, balanced.total, ?_, balanced.total_eq_zero_iff, ?_,
    fun _ _ nonneg shrinks _ => balanced.decay_decay nonneg shrinks,
    fun _ nonneg shrinks => balanced.decay_iterate nonneg shrinks,
    fun _ => balanced.quantile?_decay, ofCheckpoint_checkpoint histogram⟩
  · intro weight member
    obtain ⟨entry, listed, rfl⟩ := List.mem_map.1 member
    exact balanced.positive entry listed
  · intro index member
    obtain ⟨entry, listed, rfl⟩ := List.mem_map.1 member
    exact within entry listed

section Witness

/-- One sample of three cores. -/
noncomputable def loaded : Histogram ℝ :=
  (empty (.forResource .cpu)).performAll [.add 3 1]

theorem entries_loaded :
    loaded.weights.entries = [(loaded.layout.find 3, 1)] := by
  have added : loaded = (empty (.forResource .cpu)).add 3 1 := rfl
  rw [added, add_eq _ one_pos]
  change [(_, (0 : ℝ) + 1)] = _
  rw [zero_add]

theorem keys_loaded_halved :
    (loaded.decay (1 / 2)).weights.keys = loaded.weights.keys := by
  have heavy : (leastWeight : ℝ) ≤ 1 / 2 := by
    rw [leastWeight, scientific_eq]
    norm_num
  rw [decay_of_lt_one _ (by norm_num)]
  refine keys_faded_of_le fun entry listed => ?_
  rw [entries_loaded, List.mem_singleton] at listed
  rwa [listed, one_mul]

theorem loaded_fades :
    (0 : ℝ) ≤ 1 / 100 ∧ (1 / 100 : ℝ) < 1 ∧
      (loaded.decay (1 / 100)).decay (1 / 10) =
        loaded.decay (1 / 100 * (1 / 10)) ∧
      (fun histogram : Histogram ℝ => histogram.decay (1 / 100))^[3] loaded =
        loaded.decay ((1 / 100) ^ 3) ∧
      (loaded.decay (1 / 2)).weights.keys = loaded.weights.keys ∧
      (loaded.decay (1 / 2)).quantile? (9 / 10) =
        loaded.quantile? (9 / 10) := by
  obtain ⟨-, -, -, -, -, composed, powers, same, -⟩ :=
    weights_of_history (.forResource .cpu : Layout ℝ) [.add 3 1]
  refine ⟨by norm_num, by norm_num, ?_, ?_, keys_loaded_halved, ?_⟩
  · exact composed _ _ (by norm_num) (by norm_num) (by norm_num)
      (by norm_num)
  · exact powers _ (by norm_num) (by norm_num) 3
  · exact same _ keys_loaded_halved _

end Witness

end UsageForecast.Histogram
