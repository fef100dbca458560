import Mathlib
import UsageForecast.Proofs.QuantileInversion

/-!
# Quantiles and ranks

The true quantile of some samples is the one whose rank is that share of their
number.  Without decay and without rounding, the quantile that an estimator
reports lies in the bucket of the true one.
-/

namespace UsageForecast

open Exact

/-- In a list in which a property passes to earlier members, it holds at the
places before as many members as have it. -/
theorem holds_iff_lt_countP {α : Type} {members : List α} (holds : α → Bool)
    (closed : members.Pairwise fun earlier later =>
      holds later = true → holds earlier = true)
    {place : Nat} {member : α} (placed : members[place]? = some member) :
    holds member = true ↔ place < members.countP holds := by
  induction members generalizing place with
  | nil => cases placed
  | cons first rest induction =>
      obtain ⟨passes, closed⟩ := List.pairwise_cons.1 closed
      by_cases start : holds first = true
      · rw [List.countP_cons_of_pos start]
        cases place with
        | zero =>
            obtain rfl := Option.some.inj placed
            exact iff_of_true start (Nat.succ_pos _)
        | succ place =>
            rw [induction closed placed, Nat.succ_lt_succ_iff]
      · have none : ∀ other ∈ first :: rest, ¬ holds other = true := by
          intro other listed held
          rcases List.mem_cons.1 listed with rfl | later
          · exact start held
          · exact start (passes other later held)
        rw [List.countP_eq_zero.2 none]
        exact iff_of_false (none member (List.mem_of_getElem? placed))
          (Nat.not_lt_zero _)

theorem getElem?_of_counts {indices : List Nat}
    (ordered : indices.Pairwise (· ≤ ·)) {place index : Nat}
    (below : indices.countP (· < index) ≤ place)
    (upto : place < indices.countP (· ≤ index)) :
    indices[place]? = some index := by
  have listed : place < indices.length :=
    upto.trans_le List.countP_le_length
  obtain ⟨found, placed⟩ : ∃ found, indices[place]? = some found :=
    ⟨_, List.getElem?_eq_getElem listed⟩
  have passed : decide (found < index) = true ↔
      place < indices.countP (· < index) := by
    refine holds_iff_lt_countP (· < index) (ordered.imp fun le => ?_) placed
    simpa using le.trans_lt
  have near : decide (found ≤ index) = true ↔
      place < indices.countP (· ≤ index) := by
    refine holds_iff_lt_countP (· ≤ index) (ordered.imp fun le => ?_) placed
    simpa using le.trans
  rw [decide_eq_true_eq] at passed near
  have same : found = index := by omega
  rw [placed, same]

namespace Layout

variable {K : Type} [Field K] [LinearOrder K] [FloorRing K]
  [Transcendental K] {layout : Layout K}

theorem Placing.find_mono (placing : layout.Placing)
    (ascending : layout.Ascending layout.bucketCount) {lower upper : K}
    (nonneg : 0 ≤ lower) (ordered : lower ≤ upper)
    (inside : upper < layout.start layout.bucketCount) :
    layout.find lower ≤ layout.find upper := by
  by_contra reversed
  have above := (placing lower nonneg (ordered.trans_lt inside)).1
  have below := (placing upper (nonneg.trans ordered) inside).2
  have between : layout.start (layout.find upper + 1) ≤
      layout.start (layout.find lower) :=
    ascending.start_mono (not_le.1 reversed) (layout.find_lt lower).le
  exact absurd (below.trans_le between) (above.trans ordered).not_gt

end Layout

namespace Histogram

variable {K : Type} [Field K] [LinearOrder K] [FloorRing K]
  [Transcendental K]

/-- The buckets with some property weigh as much as values are in them. -/
theorem weigh_tally_test (test : Nat → Bool) (layout : Layout K)
    (values : List K) :
    weigh (fun index => if test index then 1 else 0)
        (tally layout values).weights.entries =
      ((values.map layout.find).countP test : K) := by
  rw [weigh_tally]
  induction values with
  | nil => simp
  | cons value values induction =>
      rw [List.map_cons, List.sum_cons, induction, List.map_cons,
        List.countP_cons, Nat.cast_add, Nat.cast_ite, Nat.cast_one,
        Nat.cast_zero, add_comm]

/-- The turn of a tally comes in the bucket up to which enough values are. -/
theorem Turn.counts {layout : Layout K} {values : List K}
    {target fraction : K} {before after : List (Nat × K)}
    {bucket : Nat × K}
    (turn : Turn target (tally layout values).weights.entries before bucket
      fraction after) :
    (before.map Prod.snd).sum =
        ((values.map layout.find).countP (· < bucket.1) : K) ∧
      (before.map Prod.snd).sum + bucket.2 =
        ((values.map layout.find).countP (· ≤ bucket.1) : K) := by
  obtain ⟨earlier, later⟩ := turn.order
  refine ⟨?_, ?_⟩
  · rw [← weigh_tally_test, turn.weigh_eq]
    · simp
    · intro entry member
      exact if_pos (by simpa using earlier entry member)
    · intro entry member
      exact if_neg (by simpa using (later entry member).le)
  · rw [← weigh_tally_test, turn.weigh_eq]
    · simp
    · intro entry member
      exact if_pos (by simpa using (earlier entry member).le)
    · intro entry member
      exact if_neg (by simpa using later entry member)

/-- A walk over a tally ends in the bucket of the value whose rank is the
target. -/
theorem find_ranked {layout : Layout K} {values : List K}
    (ascending : layout.Ascending layout.bucketCount)
    (placing : layout.Placing)
    (inside : ∀ value ∈ values,
      0 ≤ value ∧ value < layout.start layout.bucketCount)
    {target fraction : K} (positive : 0 < target)
    {before after : List (Nat × K)} {bucket : Nat × K}
    (turn : Turn target (tally layout values).weights.entries before bucket
      fraction after) :
    ∃ ranked ∈ values, values.mergeSort[⌈target⌉₊ - 1]? = some ranked ∧
      layout.find ranked = bucket.1 := by
  obtain ⟨earlier, upto⟩ := turn.counts
  have same : values.mergeSort.Perm values := List.mergeSort_perm _ _
  have sorted : values.mergeSort.Pairwise (· ≤ ·) :=
    List.pairwise_mergeSort' (· ≤ ·) values
  have ordered : (values.mergeSort.map layout.find).Pairwise (· ≤ ·) := by
    refine List.pairwise_map.2 (sorted.imp_of_mem ?_)
    intro lower upper lowerMember upperMember le
    exact placing.find_mono ascending
      (inside lower (same.mem_iff.1 lowerMember)).1 le
      (inside upper (same.mem_iff.1 upperMember)).2
  have missed : (values.mergeSort.map layout.find).countP (· < bucket.1) <
      ⌈target⌉₊ := by
    rw [(same.map _).countP_eq, Nat.lt_ceil, ← earlier]
    by_cases first : before = []
    · simpa [first] using positive
    · exact turn.missed first
  have reached : ⌈target⌉₊ ≤
      (values.mergeSort.map layout.find).countP (· ≤ bucket.1) := by
    rw [(same.map _).countP_eq, Nat.ceil_le, ← upto]
    exact turn.reached
  have found := getElem?_of_counts ordered (Nat.le_sub_one_of_lt missed)
    (by omega)
  rw [List.getElem?_map, Option.map_eq_some_iff] at found
  obtain ⟨ranked, place, index⟩ := found
  exact ⟨ranked, same.mem_iff.1 (List.mem_of_getElem? place), place, index⟩

variable [IsStrictOrderedRing K]

theorem quantile?_tally {layout : Layout K} {values : List K}
    (ascending : layout.Ascending layout.bucketCount)
    (placing : layout.Placing)
    (inside : ∀ value ∈ values,
      0 ≤ value ∧ value < layout.start layout.bucketCount)
    (nonempty : values ≠ []) {share : K} (positive : 0 < share)
    (le_one : share ≤ 1) :
    ∃ ranked ∈ values,
      values.mergeSort[⌈share * values.length⌉₊ - 1]? = some ranked ∧
        ∃ value, (tally layout values).quantile? share = some value ∧
          layout.start (layout.find ranked) ≤ value ∧
          value ≤ layout.start (layout.find ranked + 1) := by
  have number : (0 : K) < values.length :=
    Nat.cast_pos.2 (List.length_pos_iff.2 nonempty)
  have total := total_tally layout values
  obtain ⟨before, bucket, fraction, after, turn, found⟩ :=
    quantile?_eq (balanced_tally layout values) (total ▸ number) share
  rw [clamp_of_mem positive.le le_one, total] at turn
  obtain ⟨ranked, member, place, index⟩ :=
    find_ranked ascending placing inside (mul_pos positive number) turn
  rw [tally_layout, ← index] at found
  have ascends := ascending _ (layout.find_lt ranked)
  exact ⟨ranked, member, place, _, found,
    Layout.start_le_point ascends turn.nonneg,
    Layout.point_le_start ascends turn.le_one⟩

end Histogram

namespace Estimator

variable {K : Type} [Field K] [LinearOrder K] [IsStrictOrderedRing K]
  [FloorRing K] [Transcendental K]

omit [IsStrictOrderedRing K] in
theorem quantile_eq_clamp {estimator : Estimator K}
    (counted : estimator.count ≠ 0) {share value : K}
    (found : estimator.histogram.quantile? share = some value) :
    estimator.quantile share =
      Scalar.clamp value estimator.least estimator.greatest := by
  rw [quantile, if_neg counted, found, Option.getD_some]

/-- The quantile that an estimator reports of samples that did not decay lies
in the bucket of the true one, the sample whose rank is that share of their
number.  So it is off by no more than that bucket is wide. -/
theorem quantile_near_ranked {layout : Layout K}
    (ascending : layout.Ascending layout.bucketCount)
    (placing : layout.Placing) (quantiles : List (Quantile K))
    {operations : List (Operation K)} (undecayed : Undecayed operations)
    (nonempty : samples operations ≠ [])
    (room : (samples operations).length < UInt64.size)
    (inside : ∀ sample ∈ samples operations,
      0 ≤ sample.value ∧ sample.value < layout.start layout.bucketCount)
    {share : K} (positive : 0 < share) (le_one : share ≤ 1) :
    let values := (samples operations).map Sample.value
    let reported :=
      ((empty layout quantiles).performAll operations).quantile share
    ∃ ranked,
      values.mergeSort[⌈share * values.length⌉₊ - 1]? = some ranked ∧
        let low := layout.start (layout.find ranked)
        let high := layout.start (layout.find ranked + 1)
        (low ≤ ranked ∧ ranked < high) ∧
          (low ≤ reported ∧ reported ≤ high) ∧
          |reported - ranked| ≤ high - low := by
  intro values reported
  have described := describes_samples layout quantiles room
  obtain ⟨least, greatest⟩ := described.extremes nonempty
  obtain ⟨ranked, member, place, value, found, above, below⟩ :=
    Histogram.quantile?_tally ascending placing (List.forall_mem_map.2 inside)
      (mt List.map_eq_nil_iff.1 nonempty) positive le_one
  have placed : layout.start (layout.find ranked) ≤ ranked ∧
      ranked < layout.start (layout.find ranked + 1) := by
    obtain ⟨sample, held, rfl⟩ := List.mem_map.1 member
    exact placing _ (inside sample held).1 (inside sample held).2
  -- The true quantile is in its bucket and between the extremes, so
  -- clamping does not move the reported one out of that bucket.
  have within := clamp_mem_of_meets ⟨above, below⟩ ⟨placed.1, placed.2.le⟩
    ⟨(List.min?_eq_some_iff.1 least).2 ranked member,
      (List.max?_eq_some_iff.1 greatest).2 ranked member⟩
  rw [← histogram_of_undecayed undecayed layout quantiles] at found
  rw [← quantile_eq_clamp (described.count_ne_zero nonempty) found] at within
  exact ⟨ranked, place, placed, within,
    abs_sub_le_of_le_of_le within.1 within.2 placed.1 placed.2.le⟩

theorem steady_near_ranked :
    let layout : Layout ℝ := .forResource .cpu
    let steady := steadyHistory 7 3
    layout.Ascending layout.bucketCount ∧ layout.Placing ∧
      Undecayed steady ∧ samples steady ≠ [] ∧
      (samples steady).length < UInt64.size ∧
      (∀ sample ∈ samples steady,
        0 ≤ sample.value ∧ sample.value < layout.start layout.bucketCount) ∧
      |((forResource .cpu []).performAll steady).quantile (1 / 2) - 3| ≤
        layout.start (layout.find 3 + 1) - layout.start (layout.find 3) := by
  intro layout steady
  have geometric := Layout.geometric_forResource .cpu
  have undecayed : Undecayed steady := undecayed_steadyHistory 7 3
  have nonempty : samples steady ≠ [] := List.cons_ne_nil _ _
  have room : (samples steady).length < UInt64.size :=
    show 2 < UInt64.size by decide
  have largest : layout.maxValue = 1000 := by
    norm_num [layout, Layout.forResource]
  have values : ∀ sample ∈ samples steady,
      0 ≤ sample.value ∧ sample.value ≤ layout.maxValue := by
    rw [largest]
    refine List.forall_mem_cons.2 ⟨?_, List.forall_mem_singleton.2 ?_⟩
    · norm_num
    · norm_num
  have inside : ∀ sample ∈ samples steady,
      0 ≤ sample.value ∧
        sample.value < layout.start layout.bucketCount := by
    have beyond := geometric.maxValue_lt (by rw [largest]; norm_num)
    exact fun sample member =>
      ⟨(values sample member).1, (values sample member).2.trans_lt beyond⟩
  have positive : (0 : ℝ) < 1 / 2 := by norm_num
  obtain ⟨ranked, place, -, -, near⟩ := quantile_near_ranked
    geometric.ascending geometric.placing [] undecayed nonempty room inside
    positive (by norm_num)
  have sorted :
      ([7, 3] : List ℝ).mergeSort[⌈(1 / 2 : ℝ) * (2 : Nat)⌉₊ - 1]? =
        some 3 := by
    norm_num [List.mergeSort, List.MergeSort.Internal.splitInTwo, List.merge]
  obtain rfl := Option.some.inj (sorted.symm.trans place)
  exact ⟨geometric.ascending, geometric.placing, undecayed, nonempty, room,
    inside, near⟩

end Estimator

end UsageForecast
