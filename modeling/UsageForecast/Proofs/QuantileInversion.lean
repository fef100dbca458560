import Mathlib
import UsageForecast.Proofs.GeometricLayout
import UsageForecast.Proofs.RunningStatistics
import UsageForecast.Proofs.SoundProfiler

/-!
# Quantiles and the distribution of weights

Without rounding, a quantile of a histogram is the value below which that
share of the weight lies, if the weight of a bucket is spread evenly over it.
Hence quantiles are ordered like their shares, and those that an estimator
reports lie between the extremes of its samples.
-/

namespace UsageForecast

open Exact

namespace Layout

variable {K : Type} [Field K] [LinearOrder K] [FloorRing K]
  [Transcendental K]

/-- The value at a fraction of a bucket. -/
noncomputable def point (layout : Layout K) (index : Nat) (fraction : K) :
    K :=
  layout.start index +
    fraction * (layout.start (index + 1) - layout.start index)

/-- The portion of a bucket that lies below a value. -/
noncomputable def portionBelow (layout : Layout K) (value : K)
    (index : Nat) : K :=
  max 0 (min 1 ((value - layout.start index) /
    (layout.start (index + 1) - layout.start index)))

variable [IsStrictOrderedRing K] {layout : Layout K} {index : Nat}
  (ascends : layout.start index < layout.start (index + 1))

include ascends

theorem portionBelow_of_le {value : K} (below : value ≤ layout.start index) :
    layout.portionBelow value index = 0 := by
  have negative := div_nonpos_of_nonpos_of_nonneg (sub_nonpos.2 below)
    (sub_pos.2 ascends).le
  exact max_eq_left ((min_le_right _ _).trans negative)

theorem portionBelow_of_ge {value : K}
    (above : layout.start (index + 1) ≤ value) :
    layout.portionBelow value index = 1 := by
  have whole := (one_le_div (sub_pos.2 ascends)).2
    (sub_le_sub_right above (layout.start index))
  rw [portionBelow, min_eq_left whole, max_eq_right zero_le_one]

theorem start_le_point {fraction : K} (nonneg : 0 ≤ fraction) :
    layout.start index ≤ layout.point index fraction :=
  le_add_of_nonneg_right (mul_nonneg nonneg (sub_pos.2 ascends).le)

theorem point_le_start {fraction : K} (le_one : fraction ≤ 1) :
    layout.point index fraction ≤ layout.start (index + 1) := by
  have part := mul_le_of_le_one_left (sub_pos.2 ascends).le le_one
  rw [point]
  linarith

theorem portionBelow_point {fraction : K} (nonneg : 0 ≤ fraction)
    (le_one : fraction ≤ 1) :
    layout.portionBelow (layout.point index fraction) index = fraction := by
  rw [portionBelow, point, add_sub_cancel_left,
    mul_div_cancel_right₀ _ (sub_pos.2 ascends).ne', min_eq_right le_one,
    max_eq_right nonneg]

theorem portionBelow_mono {lower upper : K} (ordered : lower ≤ upper) :
    layout.portionBelow lower index ≤ layout.portionBelow upper index := by
  have width := (sub_pos.2 ascends).le
  unfold portionBelow
  gcongr

end Layout

namespace Histogram

section

variable {K : Type} [Field K] [LinearOrder K]

/-- The bucket on whose turn a walk over some buckets reaches a target weight,
and the fraction of it that the target takes. -/
structure Turn (target : K) (entries before : List (Nat × K))
    (bucket : Nat × K) (fraction : K) (after : List (Nat × K)) : Prop where
  entries_eq : entries = before ++ bucket :: after
  missed : before ≠ [] → (before.map Prod.snd).sum < target
  reached : target ≤ (before.map Prod.snd).sum + bucket.2
  nonneg : 0 ≤ fraction
  le_one : fraction ≤ 1
  target_eq : (before.map Prod.snd).sum + fraction * bucket.2 = target

theorem Turn.order {target fraction : K} {weights : SortedMap Nat K}
    {before after : List (Nat × K)} {bucket : Nat × K}
    (turn : Turn target weights.entries before bucket fraction after) :
    (∀ entry ∈ before, entry.1 < bucket.1) ∧
      ∀ entry ∈ after, bucket.1 < entry.1 := by
  have increasing := weights.increasing
  rw [turn.entries_eq, Increasing, List.pairwise_append, List.pairwise_cons]
    at increasing
  obtain ⟨-, ⟨above, -⟩, below⟩ := increasing
  exact ⟨fun entry member =>
      Nat.compare_eq_lt.1 (below entry member bucket List.mem_cons_self),
    fun entry member => Nat.compare_eq_lt.1 (above entry member)⟩

theorem Turn.weigh_eq {target fraction : K}
    {entries before after : List (Nat × K)} {bucket : Nat × K}
    (turn : Turn target entries before bucket fraction after)
    {portion : Nat → K} (whole : ∀ entry ∈ before, portion entry.1 = 1)
    (none : ∀ entry ∈ after, portion entry.1 = 0) :
    weigh portion entries =
      (before.map Prod.snd).sum + portion bucket.1 * bucket.2 := by
  rw [turn.entries_eq, weigh_append, weigh_cons, weigh_eq_of_portion whole,
    weigh_eq_of_portion none, one_mul, zero_mul, add_zero]

variable [IsStrictOrderedRing K]

theorem Turn.first {target : K} {bucket : Nat × K}
    (rest : List (Nat × K)) (positive : 0 < bucket.2) (nonneg : 0 ≤ target)
    (reached : target ≤ bucket.2) :
    Turn target (bucket :: rest) [] bucket (target / bucket.2) rest where
  entries_eq := rfl
  missed := nofun
  reached := by simpa using reached
  nonneg := div_nonneg nonneg positive.le
  le_one := div_le_one_of_le₀ reached positive.le
  target_eq := by
    rw [List.map_nil, List.sum_nil, zero_add,
      div_mul_cancel₀ _ positive.ne']

theorem Turn.later {target fraction : K} {entry bucket : Nat × K}
    {rest before after : List (Nat × K)} (missed : entry.2 < target)
    (turn : Turn (target - entry.2) rest before bucket fraction after) :
    Turn target (entry :: rest) (entry :: before) bucket fraction after where
  entries_eq := by rw [turn.entries_eq, List.cons_append]
  missed _ := by
    rw [List.map_cons, List.sum_cons]
    by_cases first : before = []
    · simpa [first] using missed
    · linarith [turn.missed first]
  reached := by
    rw [List.map_cons, List.sum_cons]
    linarith [turn.reached]
  nonneg := turn.nonneg
  le_one := turn.le_one
  target_eq := by
    rw [List.map_cons, List.sum_cons]
    linarith [turn.target_eq]

end

variable {K : Type} [Field K] [LinearOrder K] [IsStrictOrderedRing K]
  [FloorRing K] [Transcendental K]

/-- A walk ends at the fraction of the bucket on whose turn it reaches its
target, if the buckets weigh enough. -/
theorem locate_eq (layout : Layout K) {target earlier : K} (last : Nat)
    {entries : List (Nat × K)} (positive : ∀ entry ∈ entries, 0 < entry.2)
    (nonempty : entries ≠ []) (above : earlier ≤ target)
    (enough : target ≤ earlier + (entries.map Prod.snd).sum) :
    ∃ before bucket fraction after,
      Turn (target - earlier) entries before bucket fraction after ∧
      locate layout target earlier last entries =
        layout.point bucket.1 fraction := by
  induction entries generalizing earlier last with
  | nil => exact absurd rfl nonempty
  | cons entry rest induction =>
      have weighty := positive entry List.mem_cons_self
      unfold locate
      rw [if_pos weighty]
      split
      next reached =>
        have turn := Turn.first rest weighty (sub_nonneg.2 above)
          (sub_le_iff_le_add'.2 reached)
        exact ⟨[], entry, _, rest, turn, rfl⟩
      next missed =>
        have beyond : earlier + entry.2 < target := not_le.1 missed
        rw [List.map_cons, List.sum_cons, ← add_assoc] at enough
        have others : rest ≠ [] := by
          rintro rfl
          exact missed (by simpa using enough)
        obtain ⟨before, bucket, fraction, after, turn, value⟩ :=
          induction entry.1
            (fun other member =>
              positive other (List.mem_cons_of_mem _ member))
            others beyond.le enough
        rw [← sub_sub] at turn
        exact ⟨entry :: before, bucket, fraction, after,
          turn.later (lt_sub_iff_add_lt'.2 beyond), value⟩

theorem quantile?_eq {histogram : Histogram K}
    (balanced : histogram.Balanced) (positive : 0 < histogram.total)
    (share : K) :
    ∃ before bucket fraction after,
      Turn (Scalar.clamp share 0 1 * histogram.total)
        histogram.weights.entries before bucket fraction after ∧
      histogram.quantile? share =
        some (histogram.layout.point bucket.1 fraction) := by
  obtain ⟨nonneg, le_one⟩ := clamp_mem zero_le_one share
  have total : (histogram.weights.entries.map Prod.snd).sum =
      histogram.total := balanced.total.symm
  have nonempty : histogram.weights.entries ≠ [] := by
    intro none
    rw [← total, none] at positive
    exact positive.ne rfl
  have enough : Scalar.clamp share 0 1 * histogram.total ≤
      0 + (histogram.weights.entries.map Prod.snd).sum := by
    rw [zero_add, total]
    exact mul_le_of_le_one_left positive.le le_one
  obtain ⟨before, bucket, fraction, after, turn, value⟩ :=
    locate_eq histogram.layout 0 balanced.positive nonempty
      (mul_nonneg nonneg positive.le) enough
  rw [sub_zero] at turn
  refine ⟨before, bucket, fraction, after, turn, ?_⟩
  rw [quantile?, if_neg positive.not_ge]
  exact congrArg some value

/-- The weight below a value, if that of each bucket is spread evenly over
it. -/
noncomputable def weightBelow (histogram : Histogram K) (value : K) : K :=
  weigh (histogram.layout.portionBelow value) histogram.weights.entries

theorem weightBelow_mono {histogram : Histogram K} {count : Nat}
    (ascending : histogram.layout.Ascending count)
    (within : histogram.Within count)
    (positive : ∀ entry ∈ histogram.weights.entries, 0 < entry.2)
    {lower upper : K} (ordered : lower ≤ upper) :
    histogram.weightBelow lower ≤ histogram.weightBelow upper := by
  refine List.sum_le_sum fun entry member => ?_
  have portion := Layout.portionBelow_mono
    (ascending _ (within entry member)) ordered
  exact mul_le_mul_of_nonneg_right portion (positive entry member).le

/-- The buckets before the turn lie below the value, those after it above. -/
theorem Turn.weightBelow {histogram : Histogram K} {count : Nat}
    (ascending : histogram.layout.Ascending count)
    (within : histogram.Within count) {target fraction : K}
    {before after : List (Nat × K)} {bucket : Nat × K}
    (turn : Turn target histogram.weights.entries before bucket fraction
      after) :
    histogram.weightBelow (histogram.layout.point bucket.1 fraction) =
      target := by
  obtain ⟨below, above⟩ := turn.order
  rw [Within, turn.entries_eq, List.forall_mem_append, List.forall_mem_cons]
    at within
  obtain ⟨beforeWithin, bucketWithin, afterWithin⟩ := within
  have ascends := ascending _ bucketWithin
  have whole : ∀ entry ∈ before, histogram.layout.portionBelow
      (histogram.layout.point bucket.1 fraction) entry.1 = 1 := by
    intro entry member
    apply Layout.portionBelow_of_ge (ascending _ (beforeWithin entry member))
    exact (ascending.start_mono (below entry member) bucketWithin.le).trans
      (Layout.start_le_point ascends turn.nonneg)
  have none : ∀ entry ∈ after, histogram.layout.portionBelow
      (histogram.layout.point bucket.1 fraction) entry.1 = 0 := by
    intro entry member
    apply Layout.portionBelow_of_le (ascending _ (afterWithin entry member))
    exact (Layout.point_le_start ascends turn.le_one).trans
      (ascending.start_mono (above entry member)
        (afterWithin entry member).le)
  rw [Histogram.weightBelow, turn.weigh_eq whole none,
    Layout.portionBelow_point ascends turn.nonneg turn.le_one]
  exact turn.target_eq

theorem weightBelow_of_quantile? {histogram : Histogram K} {count : Nat}
    (ascending : histogram.layout.Ascending count)
    (within : histogram.Within count) (balanced : histogram.Balanced)
    (positive : 0 < histogram.total) {share value : K}
    (found : histogram.quantile? share = some value) :
    histogram.weightBelow value =
      Scalar.clamp share 0 1 * histogram.total := by
  obtain ⟨_, _, _, _, turn, same⟩ := quantile?_eq balanced positive share
  obtain rfl := Option.some.inj (found.symm.trans same)
  exact turn.weightBelow ascending within

theorem quantile?_mono {histogram : Histogram K} {count : Nat}
    (ascending : histogram.layout.Ascending count)
    (within : histogram.Within count) (balanced : histogram.Balanced)
    (positive : 0 < histogram.total) {low high lower upper : K}
    (ordered : low ≤ high) (found : histogram.quantile? low = some lower)
    (other : histogram.quantile? high = some upper) : lower ≤ upper := by
  by_contra above
  have reversed := weightBelow_mono ascending within balanced.positive
    (not_le.1 above).le
  rw [weightBelow_of_quantile? ascending within balanced positive found,
    weightBelow_of_quantile? ascending within balanced positive other]
    at reversed
  -- The weights are the same, so the shares and with them the values are.
  have equal : Scalar.clamp low 0 1 = Scalar.clamp high 0 1 :=
    le_antisymm (clamp_mono zero_le_one ordered)
      (le_of_mul_le_mul_right reversed positive)
  unfold quantile? at found other
  rw [equal, other] at found
  exact above (Option.some.inj found).symm.le

end Histogram

namespace Estimator

variable {K : Type} [Field K] [LinearOrder K] [FloorRing K]
  [Transcendental K]

theorem bounded_performAll (layout : Layout K)
    (quantiles : List (Quantile K)) (operations : List (Operation K)) :
    ((empty layout quantiles).performAll operations).Bounded := by
  refine List.foldlRecOn operations perform (.inl rfl) ?_
  intro estimator bounded operation _
  cases operation with
  | ingest sample => exact bounded_ingest bounded sample
  | decay factor => exact bounded
  | setQuantiles quantiles => exact bounded

theorem quantile_between {estimator : Estimator K}
    (bounded : estimator.Bounded) (counted : estimator.count ≠ 0)
    (share : K) :
    estimator.least ≤ estimator.quantile share ∧
      estimator.quantile share ≤ estimator.greatest := by
  unfold quantile
  rw [if_neg counted]
  exact clamp_mem (bounded.resolve_left counted) _

variable [IsStrictOrderedRing K]

/-- What holds of the histogram of an estimator at all times. -/
structure Weighed (layout : Layout K) (estimator : Estimator K) : Prop where
  layout_eq : estimator.histogram.layout = layout
  balanced : estimator.histogram.Balanced
  within : estimator.histogram.Within layout.bucketCount

theorem Weighed.perform {layout : Layout K} {estimator : Estimator K}
    (weighed : estimator.Weighed layout) (operation : Operation K) :
    (estimator.perform operation).Weighed layout := by
  obtain ⟨rfl, balanced, within⟩ := weighed
  cases operation with
  | ingest sample =>
      have added := histogram_ingest estimator sample
      refine ⟨?_, ?_, ?_⟩
      · rw [Estimator.perform, added, Histogram.add_layout]
      · rw [Estimator.perform, added]
        exact balanced.add one_pos
      · rw [Estimator.perform, added]
        exact within.add le_rfl one_pos
  | decay factor =>
      exact ⟨Histogram.decay_layout _ _, balanced.decay factor,
        within.decay factor⟩
  | setQuantiles quantiles => exact ⟨rfl, balanced, within⟩

theorem weighed_performAll (layout : Layout K)
    (quantiles : List (Quantile K)) (operations : List (Operation K)) :
    ((empty layout quantiles).performAll operations).Weighed layout :=
  List.foldlRecOn operations Estimator.perform
    ⟨rfl, Histogram.balanced_empty layout, nofun⟩
    fun _ weighed operation _ => weighed.perform operation

theorem quantile_mono {layout : Layout K} {estimator : Estimator K}
    (ascending : layout.Ascending layout.bucketCount)
    (weighed : estimator.Weighed layout) (bounded : estimator.Bounded)
    {low high : K} (ordered : low ≤ high) :
    estimator.quantile low ≤ estimator.quantile high := by
  obtain ⟨rfl, balanced, within⟩ := weighed
  unfold quantile
  split
  next => exact le_rfl
  next counted =>
    refine clamp_mono (bounded.resolve_left counted) ?_
    by_cases empty : estimator.histogram.total ≤ 0
    · rw [Histogram.quantile?, Histogram.quantile?, if_pos empty,
        if_pos empty]
    · rw [Histogram.quantile?, Histogram.quantile?, if_neg empty,
        if_neg empty]
      exact Histogram.quantile?_mono ascending within balanced
        (not_le.1 empty) ordered (if_neg empty) (if_neg empty)

/-- A quantile is the value below which that share of the weight lies.  It is
found in the bucket on whose turn the weight reaches the share, so the walk
never runs out of buckets.  Hence quantiles are ordered like their shares;
those of an estimator are at all times, and lie between the extremes of its
samples, even if decay has left no weight. -/
theorem quantiles_invert_weights :
    (∀ (histogram : Histogram K) (count : Nat),
      histogram.layout.Ascending count → histogram.Within count →
      histogram.Balanced → 0 < histogram.total →
        (∀ share, 0 ≤ share → share ≤ 1 →
          ∃ value, histogram.quantile? share = some value ∧
            histogram.weightBelow value = share * histogram.total ∧
            ∃ before bucket fraction after,
              Histogram.Turn (share * histogram.total)
                histogram.weights.entries before bucket fraction after ∧
              value = histogram.layout.point bucket.1 fraction) ∧
        ∀ low high lower upper, low ≤ high →
          histogram.quantile? low = some lower →
          histogram.quantile? high = some upper → lower ≤ upper) ∧
    ∀ (layout : Layout K) (quantiles : List (Quantile K))
        (operations : List (Operation K)),
      layout.Ascending layout.bucketCount →
        let estimator := (empty layout quantiles).performAll operations
        (∀ low high, low ≤ high →
          estimator.quantile low ≤ estimator.quantile high) ∧
        (samples operations ≠ [] →
          (samples operations).length < UInt64.size →
          ((samples operations).map Sample.value).min? =
              some estimator.least ∧
            ((samples operations).map Sample.value).max? =
              some estimator.greatest ∧
            ∀ share, estimator.least ≤ estimator.quantile share ∧
              estimator.quantile share ≤ estimator.greatest) := by
  refine ⟨?_, ?_⟩
  · intro histogram count ascending within balanced positive
    refine ⟨?_, fun _ _ _ _ =>
      Histogram.quantile?_mono ascending within balanced positive⟩
    intro share nonneg le_one
    obtain ⟨before, bucket, fraction, after, turn, found⟩ :=
      Histogram.quantile?_eq balanced positive share
    rw [clamp_of_mem nonneg le_one] at turn
    exact ⟨_, found, turn.weightBelow ascending within, before, bucket,
      fraction, after, turn, rfl⟩
  · intro layout quantiles operations ascending estimator
    have bounded : estimator.Bounded :=
      bounded_performAll layout quantiles operations
    refine ⟨?_, ?_⟩
    · intro low high ordered
      exact quantile_mono ascending
        (weighed_performAll layout quantiles operations) bounded ordered
    · intro nonempty room
      have described := describes_samples layout quantiles room
      obtain ⟨least, greatest⟩ := described.extremes nonempty
      exact ⟨least, greatest,
        quantile_between bounded (described.count_ne_zero nonempty)⟩

section Witness

/-- Weights of two buckets and none of the bucket between them. -/
noncomputable def gapped (layout : Layout ℝ) (light heavy : ℝ) :
    Histogram ℝ :=
  ⟨layout, SortedMap.ofList [(0, light), (2, heavy)], light + heavy⟩

theorem entries_gapped (layout : Layout ℝ) (light heavy : ℝ) :
    (gapped layout light heavy).weights.entries =
      [(0, light), (2, heavy)] := rfl

theorem balanced_gapped (layout : Layout ℝ) {light heavy : ℝ}
    (lightPositive : 0 < light) (heavyPositive : 0 < heavy) :
    (gapped layout light heavy).Balanced := by
  refine ⟨?_, ?_⟩
  · rw [SortedMap.values, entries_gapped]
    simp [gapped]
  · rw [entries_gapped]
    simp [lightPositive, heavyPositive]

theorem median_gapped :
    (gapped ⟨1, 2, 7⟩ 1 3).quantile? (1 / 2) = some (13 / 3) := by
  have third : (⟨1, 2, 7⟩ : Layout ℝ).start 2 = 3 := by
    rw [Layout.start_eq _ (by decide)]
    norm_num
  have fourth : (⟨1, 2, 7⟩ : Layout ℝ).start (2 + 1) = 7 := by
    rw [Layout.start_eq _ (by decide)]
    norm_num
  have weight :
      Scalar.clamp (1 / 2) 0 1 * (gapped ⟨1, 2, 7⟩ 1 3).total = 2 := by
    rw [clamp_of_mem (by norm_num) (by norm_num)]
    norm_num [gapped]
  rw [Histogram.quantile?, if_neg (by norm_num [gapped]), weight,
    entries_gapped]
  norm_num [Histogram.locate, gapped, third, fourth]

theorem gapped_and_emptied_quantiles :
    let histogram := gapped ⟨1, 2, 7⟩ 1 3
    let layout : Layout ℝ := .forResource .cpu
    let estimator : Estimator ℝ :=
      (empty layout []).performAll (steadyHistory 7 3 ++ [.decay 0])
    histogram.layout.Ascending 3 ∧ histogram.Within 3 ∧
      histogram.Balanced ∧ 0 < histogram.total ∧
      histogram.quantile? (1 / 2) = some (13 / 3) ∧
      histogram.weightBelow (13 / 3) = 1 / 2 * histogram.total ∧
      layout.Ascending layout.bucketCount ∧
      estimator.histogram.weights.entries = [] ∧
      estimator.quantile (1 / 4) ≤ estimator.quantile (1 / 2) ∧
      3 ≤ estimator.quantile (1 / 2) ∧ estimator.quantile (1 / 2) ≤ 7 := by
  intro histogram layout estimator
  have ascending : histogram.layout.Ascending 3 :=
    Layout.ascending_of_ratio one_pos one_lt_two (by decide)
  have within : histogram.Within 3 := by
    rw [Histogram.Within, entries_gapped]
    simp
  have balanced : histogram.Balanced :=
    balanced_gapped _ one_pos three_pos
  have positive : 0 < histogram.total := by norm_num [histogram, gapped]
  have cpu := (Layout.geometric_forResource .cpu).ascending
  obtain ⟨histograms, reachable⟩ := quantiles_invert_weights (K := ℝ)
  obtain ⟨inverts, -⟩ :=
    histograms histogram 3 ascending within balanced positive
  obtain ⟨value, found, weight, -⟩ :=
    inverts (1 / 2) (by norm_num) (by norm_num)
  obtain rfl := Option.some.inj (median_gapped.symm.trans found)
  obtain ⟨ordered, between⟩ :=
    reachable layout [] (steadyHistory 7 3 ++ [.decay 0]) cpu
  have emptied : estimator.histogram.weights.entries = [] :=
    Histogram.entries_decay_zero _
  obtain ⟨least, greatest, inside⟩ :=
    between (List.cons_ne_nil _ _) (show 2 < UInt64.size by decide)
  have three : ([7, 3] : List ℝ).min? = some 3 := by norm_num [List.min?]
  have seven : ([7, 3] : List ℝ).max? = some 7 := by norm_num [List.max?]
  have bounds := inside (1 / 2)
  rw [← Option.some.inj (three.symm.trans least),
    ← Option.some.inj (seven.symm.trans greatest)] at bounds
  exact ⟨ascending, within, balanced, positive, median_gapped, weight, cpu,
    emptied, ordered _ _ (by norm_num), bounds⟩

end Witness

end Estimator

end UsageForecast
