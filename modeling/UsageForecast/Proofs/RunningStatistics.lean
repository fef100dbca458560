import Mathlib
import UsageForecast.Proofs.BucketWeights
import UsageForecast.Proofs.InstantOrder
import UsageForecast.Proofs.SavedEstimator

/-!
# The statistics of a list of samples

Without rounding, the running figures of an estimator are those of the list
of all samples that it has got: their number, their mean and spread, their
extremes, and the first and the last of their times.  Decay and changes of the
quantiles in between make no difference, and neither does the order of the
samples; without decay this holds of the histogram too.
-/

namespace UsageForecast

section Extremes

variable {α : Type}

theorem min?_concat [Min α] (members : List α) (last : α) :
    (members ++ [last]).min? =
      some (match members.min? with
        | some least => min least last
        | none => last) := by
  cases members <;> simp [List.min?]

theorem max?_concat [Max α] (members : List α) (last : α) :
    (members ++ [last]).max? =
      some (match members.max? with
        | some greatest => max greatest last
        | none => last) := by
  cases members <;> simp [List.max?]

variable [LE α] [Std.IsLinearOrder α] {left right : List α}

theorem min?_eq_of_perm [Min α] [Std.LawfulOrderMin α]
    (same : left.Perm right) : left.min? = right.min? := by
  ext least
  simp only [List.min?_eq_some_iff, same.mem_iff]

theorem max?_eq_of_perm [Max α] [Std.LawfulOrderMax α]
    (same : left.Perm right) : left.max? = right.max? := by
  ext greatest
  simp only [List.max?_eq_some_iff, same.mem_iff]

end Extremes

namespace Estimator

section Histories

variable {α : Type}

/-- The sample that an operation folds into an estimator. -/
def Operation.sample? : Operation α → Option (Sample α)
  | .ingest sample => some sample
  | .decay _ => none
  | .setQuantiles _ => none

/-- The samples that some operations fold into an estimator, in order. -/
def samples (operations : List (Operation α)) : List (Sample α) :=
  operations.filterMap Operation.sample?

theorem samples_cons (operation : Operation α)
    (operations : List (Operation α)) :
    samples (operation :: operations) =
      operation.sample?.toList ++ samples operations := by
  cases operation <;> rfl

/-- No operation decays the weights. -/
def Undecayed (operations : List (Operation α)) : Prop :=
  ∀ factor, .decay factor ∉ operations

end Histories

section Figures

variable {K : Type} [Field K]

def average (values : List K) : K := values.sum / values.length

/-- The sum of the squared deviations from the mean. -/
def spread (values : List K) : K :=
  (values.map fun value => (value - average values) ^ 2).sum

/-- The population variance. -/
def variance (values : List K) : K := spread values / values.length

theorem sum_squared_deviations (values : List K) (center : K) :
    (values.map fun value => (value - center) ^ 2).sum =
      (values.map (· ^ 2)).sum - 2 * center * values.sum +
        values.length * center ^ 2 := by
  induction values with
  | nil => simp
  | cons value values induction =>
      simp only [List.map_cons, List.sum_cons, List.length_cons, induction]
      push_cast
      ring

variable [CharZero K]

theorem length_mul_average (values : List K) :
    values.length * average values = values.sum := by
  cases values with
  | nil => simp
  | cons value values =>
      have positive : ((value :: values).length : K) ≠ 0 :=
        Nat.cast_ne_zero.2 (Nat.succ_ne_zero _)
      exact mul_div_cancel₀ _ positive

theorem average_concat (values : List K) (value : K) :
    average (values ++ [value]) =
      average values +
        (value - average values) / ((values.length + 1 : Nat) : K) := by
  have positive : ((values.length + 1 : Nat) : K) ≠ 0 :=
    Nat.cast_ne_zero.2 (Nat.succ_ne_zero _)
  have total := length_mul_average values
  rw [average, List.sum_append, List.sum_singleton, List.length_append,
    List.length_singleton, ← total]
  field_simp
  push_cast
  ring

/-- The product of the deviations from the old and the new mean is what a
value adds to the spread. -/
theorem spread_concat (values : List K) (value : K) :
    spread (values ++ [value]) =
      spread values + (value - average values) *
        (value - average (values ++ [value])) := by
  have before := length_mul_average values
  have after := length_mul_average (values ++ [value])
  simp only [spread, sum_squared_deviations, List.map_append, List.map_cons,
    List.map_nil, List.sum_append, List.sum_singleton, List.length_append,
    List.length_singleton] at after ⊢
  push_cast at after ⊢
  linear_combination
    (average (values ++ [value]) - average values) * (before + after)

end Figures

section Descriptions

variable {K : Type} [Field K] [LinearOrder K]

/-- The figures of an estimator are those of a list of samples. -/
structure Describes (estimator : Estimator K) (samples : List (Sample K)) :
    Prop where
  count : estimator.count.toNat = samples.length
  mean : estimator.mean = average (samples.map Sample.value)
  varianceSum : estimator.varianceSum = spread (samples.map Sample.value)
  least : estimator.least = (samples.map Sample.value).min?.getD 0
  greatest : estimator.greatest = (samples.map Sample.value).max?.getD 0
  firstSampleStart :
    estimator.firstSampleStart = (samples.map Sample.timestamp).min?
  lastSampleStart :
    estimator.lastSampleStart = (samples.map Sample.timestamp).max?

theorem Describes.perm {estimator : Estimator K}
    {left right : List (Sample K)} (describes : estimator.Describes left)
    (same : left.Perm right) : estimator.Describes right := by
  have values := same.map Sample.value
  have times := same.map Sample.timestamp
  have means : average (left.map Sample.value) =
      average (right.map Sample.value) := by
    rw [average, average, values.sum_eq, values.length_eq]
  refine ⟨?_, ?_, ?_, ?_, ?_, ?_, ?_⟩
  · rw [describes.count, same.length_eq]
  · rw [describes.mean, means]
  · rw [describes.varianceSum, spread, spread, means]
    exact (values.map _).sum_eq
  · rw [describes.least, min?_eq_of_perm values]
  · rw [describes.greatest, max?_eq_of_perm values]
  · rw [describes.firstSampleStart, min?_eq_of_perm times]
  · rw [describes.lastSampleStart, max?_eq_of_perm times]

/-- Samples determine all but the histogram and the reported quantiles. -/
theorem Describes.unique {estimator other : Estimator K}
    {samples : List (Sample K)} (describes : estimator.Describes samples)
    (otherDescribes : other.Describes samples) :
    other = { estimator with
      quantiles := other.quantiles, histogram := other.histogram } := by
  have count : other.count = estimator.count :=
    UInt64.toNat_inj.1 (otherDescribes.count.trans describes.count.symm)
  rw [eq_comm, ← count, describes.mean, describes.varianceSum,
    describes.least, describes.greatest, describes.firstSampleStart,
    describes.lastSampleStart, ← otherDescribes.mean,
    ← otherDescribes.varianceSum, ← otherDescribes.least,
    ← otherDescribes.greatest, ← otherDescribes.firstSampleStart,
    ← otherDescribes.lastSampleStart]

theorem Describes.extremes {estimator : Estimator K}
    {samples : List (Sample K)} (describes : estimator.Describes samples)
    (nonempty : samples ≠ []) :
    (samples.map Sample.value).min? = some estimator.least ∧
      (samples.map Sample.value).max? = some estimator.greatest := by
  obtain ⟨first, rest, rfl⟩ := List.exists_cons_of_ne_nil nonempty
  rw [describes.least, describes.greatest]
  exact ⟨rfl, rfl⟩

theorem Describes.count_ne_zero {estimator : Estimator K}
    {samples : List (Sample K)} (describes : estimator.Describes samples)
    (nonempty : samples ≠ []) : estimator.count ≠ 0 := by
  intro uncounted
  have none := describes.count
  rw [uncounted] at none
  exact nonempty (List.length_eq_zero_iff.1 none.symm)

end Descriptions

section Runs

open Exact

variable {K : Type} [Field K] [LinearOrder K] [FloorRing K]
  [Transcendental K]

theorem describes_empty (layout : Layout K) (quantiles : List (Quantile K)) :
    (empty layout quantiles).Describes [] where
  count := rfl
  mean := by simp [empty, average]
  varianceSum := by simp [empty, spread]
  least := rfl
  greatest := rfl
  firstSampleStart := rfl
  lastSampleStart := rfl

theorem Describes.ingest {estimator : Estimator K}
    {earlier : List (Sample K)} (describes : estimator.Describes earlier)
    (sample : Sample K) (room : earlier.length + 1 < UInt64.size) :
    (estimator.ingest sample).Describes (earlier ++ [sample]) := by
  have counted : (estimator.count + 1).toNat = earlier.length + 1 := by
    rw [UInt64.toNat_add, describes.count]
    exact Nat.mod_eq_of_lt room
  have first : estimator.count + 1 = 1 ↔ earlier = [] := by
    rw [← UInt64.toNat_inj, counted]
    simp
  have mean : estimator.mean + (sample.value - estimator.mean) /
      ((estimator.count + 1).toNat : K) =
        average (earlier.map Sample.value ++ [sample.value]) := by
    rw [average_concat, describes.mean, counted, List.length_map]
  unfold Estimator.ingest
  rw [if_pos (isFinite_eq _)]
  constructor <;>
    simp only [List.map_append, List.map_cons, List.map_nil,
      List.length_append, List.length_singleton, smaller_eq_min,
      larger_eq_max, min?_concat, max?_concat, Option.getD_some, first]
  case count => exact counted
  case mean => exact mean
  case varianceSum =>
    rw [spread_concat, ← mean, ← describes.varianceSum, ← describes.mean]
  case least =>
    cases known : (earlier.map Sample.value).min? with
    | none => rw [if_pos (by simpa using known)]
    | some least =>
        have nonempty : earlier ≠ [] := by
          rintro rfl
          cases known
        rw [if_neg nonempty, describes.least, known, Option.getD_some]
  case greatest =>
    cases known : (earlier.map Sample.value).max? with
    | none => rw [if_pos (by simpa using known)]
    | some greatest =>
        have nonempty : earlier ≠ [] := by
          rintro rfl
          cases known
        rw [if_neg nonempty, describes.greatest, known, Option.getD_some]
  case firstSampleStart =>
    rw [describes.firstSampleStart]
    cases (earlier.map Sample.timestamp).min? <;> rfl
  case lastSampleStart =>
    rw [describes.lastSampleStart]
    cases (earlier.map Sample.timestamp).max? <;> rfl

theorem Describes.perform {estimator : Estimator K}
    {earlier : List (Sample K)} (describes : estimator.Describes earlier)
    (operation : Operation K)
    (room : (earlier ++ operation.sample?.toList).length < UInt64.size) :
    (estimator.perform operation).Describes
      (earlier ++ operation.sample?.toList) := by
  cases operation with
  | ingest sample =>
      rw [List.length_append] at room
      exact describes.ingest sample room
  | decay factor => exact (List.append_nil earlier).symm ▸ { describes with }
  | setQuantiles quantiles =>
      exact (List.append_nil earlier).symm ▸ { describes with }

theorem Describes.performAll {estimator : Estimator K}
    {earlier : List (Sample K)} (describes : estimator.Describes earlier)
    {operations : List (Operation K)}
    (room : (earlier ++ samples operations).length < UInt64.size) :
    (estimator.performAll operations).Describes
      (earlier ++ samples operations) := by
  induction operations generalizing estimator earlier with
  | nil => exact (List.append_nil earlier).symm ▸ describes
  | cons operation operations induction =>
      rw [samples_cons, ← List.append_assoc] at room ⊢
      refine induction (describes.perform operation ?_) room
      rw [List.length_append] at room
      omega

theorem describes_samples (layout : Layout K) (quantiles : List (Quantile K))
    {operations : List (Operation K)}
    (room : (samples operations).length < UInt64.size) :
    ((empty layout quantiles).performAll operations).Describes
      (samples operations) :=
  (describes_empty layout quantiles).performAll room

theorem histogram_ingest (estimator : Estimator K) (sample : Sample K) :
    (estimator.ingest sample).histogram =
      estimator.histogram.add sample.value 1 := by
  unfold Estimator.ingest
  rw [if_pos (isFinite_eq _)]

theorem histogram_performAll {operations : List (Operation K)}
    (undecayed : Undecayed operations) (estimator : Estimator K) :
    (estimator.performAll operations).histogram =
      ((samples operations).map Sample.value).foldl
        (fun histogram value => histogram.add value 1)
        estimator.histogram := by
  induction operations generalizing estimator with
  | nil => rfl
  | cons operation operations induction =>
      have later : Undecayed operations := fun factor member =>
        undecayed factor (List.mem_cons_of_mem _ member)
      refine (induction later _).trans ?_
      cases operation with
      | ingest sample =>
          exact congrArg (List.foldl _ · _) (histogram_ingest _ sample)
      | decay factor => exact absurd List.mem_cons_self (undecayed factor)
      | setQuantiles quantiles => rfl

theorem histogram_of_undecayed {operations : List (Operation K)}
    (undecayed : Undecayed operations) (layout : Layout K)
    (quantiles : List (Quantile K)) :
    ((empty layout quantiles).performAll operations).histogram =
      .tally layout ((samples operations).map Sample.value) :=
  histogram_performAll undecayed _

variable [IsStrictOrderedRing K]

omit [FloorRing K] [Transcendental K] in
theorem variance_nonneg (values : List K) : 0 ≤ variance values := by
  refine div_nonneg (List.sum_nonneg ?_) (Nat.cast_nonneg _)
  intro square member
  obtain ⟨value, -, rfl⟩ := List.mem_map.1 member
  exact sq_nonneg _

theorem Describes.stdDev_sq {estimator : Estimator K}
    {samples : List (Sample K)} (describes : estimator.Describes samples)
    (root : Transcendental.sqrt (variance (samples.map Sample.value)) ^ 2 =
      variance (samples.map Sample.value)) :
    estimator.stdDev ^ 2 = variance (samples.map Sample.value) := by
  unfold stdDev
  split
  next uncounted =>
    have none : samples = [] := by
      rw [← List.length_eq_zero_iff, ← describes.count, uncounted]
      rfl
    rw [none]
    simp [variance]
  next =>
    have quotient : estimator.varianceSum / estimator.size =
        variance (samples.map Sample.value) := by
      rw [describes.varianceSum, size, describes.count, variance,
        List.length_map]
    rw [quotient, larger_eq_max, max_eq_left (variance_nonneg _)]
    exact root

/-- Whatever else happens to an estimator, its figures are those of the list
of its samples, as long as their number fits a word, and no others for another
order of the samples.  Without decay the histogram and so all quantiles do not
depend on the order either. -/
theorem figures_of_samples (layout : Layout K)
    (quantiles : List (Quantile K)) (operations : List (Operation K))
    (room : (samples operations).length < UInt64.size) :
    let estimator := (empty layout quantiles).performAll operations
    let deviation := variance ((samples operations).map Sample.value)
    estimator.Describes (samples operations) ∧
      (Transcendental.sqrt deviation ^ 2 = deviation →
        estimator.stdDev ^ 2 = deviation) ∧
      ∀ others, (samples operations).Perm (samples others) →
        let other := (empty layout quantiles).performAll others
        other = { estimator with
          quantiles := other.quantiles, histogram := other.histogram } ∧
        other.stdDev = estimator.stdDev ∧
        (Undecayed operations → Undecayed others →
          other.histogram = estimator.histogram ∧
            ∀ share, other.quantile share = estimator.quantile share) := by
  intro estimator deviation
  have described := describes_samples layout quantiles room
  refine ⟨described, described.stdDev_sq, ?_⟩
  intro others same other
  have otherDescribed :=
    describes_samples layout quantiles (same.length_eq ▸ room)
  have figures := described.unique (otherDescribed.perm same.symm)
  have stdDev := congrArg Estimator.stdDev figures
  refine ⟨figures, stdDev, ?_⟩
  intro undecayed othersUndecayed
  have histogram : other.histogram = estimator.histogram := by
    rw [histogram_of_undecayed undecayed,
      histogram_of_undecayed othersUndecayed]
    exact Histogram.tally_eq_of_perm layout (same.symm.map _)
  refine ⟨histogram, fun share => ?_⟩
  rw [histogram] at figures
  have quantile := congrArg (Estimator.quantile · share) figures
  exact quantile

end Runs

section Witness

open Exact

/-- Two samples, the later one first. -/
def steadyHistory (later earlier : ℝ) : List (Operation ℝ) :=
  [.ingest ⟨⟨160, 0⟩, later⟩, .ingest ⟨⟨100, 0⟩, earlier⟩]

/-- The same samples with decay in between. -/
def agedHistory (factor later earlier : ℝ) : List (Operation ℝ) :=
  [.ingest ⟨⟨160, 0⟩, later⟩, .decay factor, .ingest ⟨⟨100, 0⟩, earlier⟩,
    .setQuantiles []]

theorem undecayed_steadyHistory (later earlier : ℝ) :
    Undecayed (steadyHistory later earlier) := by
  simp [Undecayed, steadyHistory]

theorem aged_and_steady_figures :
    let aged := agedHistory (1 / 2) 7 3
    let steady := steadyHistory 7 3
    let after := (forResource .cpu []).performAll
    (samples aged).length < UInt64.size ∧
      (samples aged).Perm (samples steady.reverse) ∧
      Undecayed steady ∧ Undecayed steady.reverse ∧
      (after aged).count.toNat = 2 ∧ (after aged).mean = 5 ∧
      (after aged).stdDev ^ 2 = 4 ∧ (after aged).least = 3 ∧
      (after aged).greatest = 7 ∧
      (after aged).firstSampleStart = some ⟨100, 0⟩ ∧
      (after aged).lastSampleStart = some ⟨160, 0⟩ ∧
      (after steady.reverse).stdDev = (after aged).stdDev ∧
      ∀ share, (after steady.reverse).quantile share =
        (after steady).quantile share := by
  intro aged steady after
  have room : (samples aged).length < UInt64.size :=
    show 2 < UInt64.size by decide
  have swapped : (samples aged).Perm (samples steady.reverse) :=
    List.Perm.swap _ _ _
  have forward : Undecayed steady := undecayed_steadyHistory 7 3
  have backward : Undecayed steady.reverse := fun factor member =>
    forward factor (List.mem_reverse.1 member)
  have mean : average [7, 3] = (5 : ℝ) := by norm_num [average]
  have deviation : variance [7, 3] = (4 : ℝ) := by
    norm_num [variance, spread, mean]
  obtain ⟨described, root, others⟩ :=
    figures_of_samples (Layout.forResource .cpu) [] aged room
  obtain ⟨-, -, undecayed⟩ :=
    figures_of_samples (Layout.forResource .cpu) [] steady room
  have squared : (after aged).stdDev ^ 2 = variance [7, 3] :=
    root (Real.sq_sqrt (variance_nonneg _))
  have least : ([7, 3] : List ℝ).min?.getD 0 = 3 := by norm_num [List.min?]
  have greatest : ([7, 3] : List ℝ).max?.getD 0 = 7 := by
    norm_num [List.max?]
  exact ⟨room, swapped, forward, backward, described.count,
    described.mean.trans mean, squared.trans deviation,
    described.least.trans least, described.greatest.trans greatest,
    described.firstSampleStart, described.lastSampleStart,
    (others _ swapped).2.1,
    ((undecayed _ swapped).2.2 forward backward).2⟩

end Witness

end Estimator

end UsageForecast
