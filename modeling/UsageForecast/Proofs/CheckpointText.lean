import UsageForecast.Proofs.KeyText
import UsageForecast.Checkpoint.Basic

/-!
# Checkpoints, read back

A checkpoint is read back from its text as it was written if its numbers are
finite and each number and each time has a text that reads back as itself.
-/

namespace UsageForecast

open Json

variable {α : Type} [Scalar α]

/-- A finite number with a decimal, free of trailing zeros, that is read back
as the number. -/
structure Scalar.Legible (value : α) : Prop where
  finite : Scalar.isFinite value = true
  readsBack : ∃ decimal, Scalar.toNumeral value = .decimal decimal ∧
    decimal.Reduced ∧ Scalar.ofDecimal decimal = value

/-- A time whose text is read back as the time. -/
def Instant.Legible (instant : Instant) : Prop :=
  Timestamp.parse? (Timestamp.write instant) = some instant

instance (instant : Instant) : Decidable instant.Legible :=
  inferInstanceAs (Decidable (_ = _))

structure Layout.Legible (layout : Layout α) : Prop where
  firstBucketSize : Scalar.Legible layout.firstBucketSize
  ratio : Scalar.Legible layout.ratio
  maxValue : Scalar.Legible layout.maxValue

/-- The index of a bucket is a word. -/
structure Histogram.Bucket.Legible (bucket : Bucket α) : Prop where
  index : bucket.index < UInt64.size
  lowerBound : Scalar.Legible bucket.lowerBound
  weight : Scalar.Legible bucket.weight

structure Histogram.Checkpoint.Legible (checkpoint : Checkpoint α) :
    Prop where
  layout : checkpoint.layout.Legible
  totalWeight : Scalar.Legible checkpoint.totalWeight
  buckets : ∀ bucket ∈ checkpoint.buckets, bucket.Legible

structure Estimator.State.Legible (state : State α) : Prop where
  mean : Scalar.Legible state.mean
  stdDev : Scalar.Legible state.stdDev
  varianceSum : Scalar.Legible state.varianceSum
  minValue : Scalar.Legible state.minValue
  maxValue : Scalar.Legible state.maxValue
  quantiles : ∀ value ∈ state.quantiles.values, Scalar.Legible value
  firstSampleStart : ∀ start ∈ state.firstSampleStart, start.Legible
  lastSampleStart : ∀ start ∈ state.lastSampleStart, start.Legible
  histogram : state.histogram.Legible

/-- All numbers of a checkpoint are finite, and the texts of its numbers and
times are read back. -/
structure Checkpoint.Legible (checkpoint : Checkpoint α) : Prop where
  savedAt : checkpoint.savedAt.Legible
  states : ∀ entry ∈ checkpoint.entries.values,
    ∀ state ∈ entry.values, state.Legible

section Decidable

variable [DecidableEq α]

instance (value : α) : Decidable (Scalar.Legible value) :=
  match text : Scalar.toNumeral value with
  | .decimal decimal =>
      decidable_of_iff
        (Scalar.isFinite value = true ∧ decimal.Reduced ∧
          Scalar.ofDecimal decimal = value)
        ⟨fun ⟨finite, reads⟩ => ⟨finite, decimal, text, reads⟩,
          fun ⟨finite, other, same, reads⟩ =>
            ⟨finite, by cases text.symm.trans same; exact reads⟩⟩
  | .infinite _ => isFalse fun ⟨_, _, same, _⟩ => by
      cases text.symm.trans same
  | .undefined => isFalse fun ⟨_, _, same, _⟩ => by
      cases text.symm.trans same

instance (layout : Layout α) : Decidable layout.Legible :=
  decidable_of_iff
    (Scalar.Legible layout.firstBucketSize ∧ Scalar.Legible layout.ratio ∧
      Scalar.Legible layout.maxValue)
    ⟨fun ⟨first, ratio, greatest⟩ => ⟨first, ratio, greatest⟩,
      fun ⟨first, ratio, greatest⟩ => ⟨first, ratio, greatest⟩⟩

instance (bucket : Histogram.Bucket α) : Decidable bucket.Legible :=
  decidable_of_iff
    (bucket.index < UInt64.size ∧ Scalar.Legible bucket.lowerBound ∧
      Scalar.Legible bucket.weight)
    ⟨fun ⟨index, bound, weight⟩ => ⟨index, bound, weight⟩,
      fun ⟨index, bound, weight⟩ => ⟨index, bound, weight⟩⟩

instance (checkpoint : Histogram.Checkpoint α) :
    Decidable checkpoint.Legible :=
  decidable_of_iff
    (checkpoint.layout.Legible ∧ Scalar.Legible checkpoint.totalWeight ∧
      ∀ bucket ∈ checkpoint.buckets, bucket.Legible)
    ⟨fun ⟨layout, total, buckets⟩ => ⟨layout, total, buckets⟩,
      fun ⟨layout, total, buckets⟩ => ⟨layout, total, buckets⟩⟩

instance (state : Estimator.State α) : Decidable state.Legible :=
  decidable_of_iff
    ((∀ value ∈ [state.mean, state.stdDev, state.varianceSum,
        state.minValue, state.maxValue] ++ state.quantiles.values,
          Scalar.Legible value) ∧
      (∀ start ∈ state.firstSampleStart.toList
        ++ state.lastSampleStart.toList, start.Legible) ∧
      state.histogram.Legible) (by
    simp only [List.mem_append, or_imp, forall_and, List.mem_cons,
      forall_eq, List.not_mem_nil, false_imp_iff, and_true,
      Option.mem_toList]
    exact ⟨fun ⟨⟨⟨mean, spread, variance, least, greatest⟩, quantiles⟩,
        ⟨first, last⟩, histogram⟩ =>
          ⟨mean, spread, variance, least, greatest, quantiles, first, last,
            histogram⟩,
      fun ⟨mean, spread, variance, least, greatest, quantiles, first, last,
          histogram⟩ =>
        ⟨⟨⟨mean, spread, variance, least, greatest⟩, quantiles⟩,
          ⟨first, last⟩, histogram⟩⟩)

instance (checkpoint : Checkpoint α) : Decidable checkpoint.Legible :=
  decidable_of_iff
    (checkpoint.savedAt.Legible ∧
      ∀ entry ∈ checkpoint.entries.values,
        ∀ state ∈ entry.values, state.Legible)
    ⟨fun ⟨savedAt, states⟩ => ⟨savedAt, states⟩,
      fun ⟨savedAt, states⟩ => ⟨savedAt, states⟩⟩

end Decidable

theorem Scalar.Legible.faithful {value : α} (legible : Legible value) :
    Faithful ofScalar scalar? value := by
  obtain ⟨finite, decimal, text, reduced, reads⟩ := legible
  refine ⟨?_, ?_⟩
  · rw [ofScalar, text]
    exact reduced
  · simp [ofScalar, text, scalar?, Number.toDecimal, reads, finite]

theorem Instant.Legible.faithful {instant : Instant}
    (legible : instant.Legible) :
    Faithful Instant.toJson Instant.ofJson? instant where
  canonical := by
    rw [Instant.toJson]
    trivial
  decoded := by
    rw [Instant.toJson, Instant.ofJson?, text?, Option.bind_eq_bind,
      Option.bind_some]
    exact legible

theorem faithful_times {start : Option Instant}
    (legible : ∀ time ∈ start, time.Legible) :
    Faithful (ofOption Instant.toJson) (nullable Instant.ofJson?) start :=
  Faithful.option (fun time present => (legible time present).faithful)
    fun _ => nofun

theorem faithful_count (count : UInt64) :
    Faithful (fun count : UInt64 => ofNat count.toNat) countOfJson?
      count := by
  obtain ⟨canonical, decoded⟩ := faithful_word count.toNat_lt
  exact ⟨canonical, by simp [countOfJson?, decoded]⟩

theorem faithful_quantiles {quantiles : SortedMap String α}
    (legible : ∀ value ∈ quantiles.values, Scalar.Legible value) :
    Faithful quantilesToJson quantilesOfJson? quantiles :=
  Faithful.map (fun _ => rfl) fun value member =>
    (legible value member).faithful

theorem Layout.Legible.faithful {layout : Layout α}
    (legible : layout.Legible) : Faithful toJson ofJson? layout := by
  have first := legible.firstBucketSize.faithful
  have ratio := legible.ratio.faithful
  have greatest := legible.maxValue.faithful
  refine ⟨⟨first.canonical, ratio.canonical, greatest.canonical, trivial⟩,
    record_object ?_⟩
  simp [required_head, first.decoded, ratio.decoded, greatest.decoded]

theorem Histogram.Bucket.Legible.faithful {bucket : Bucket α}
    (legible : bucket.Legible) : Faithful toJson ofJson? bucket := by
  have index := faithful_word legible.index
  have bound := legible.lowerBound.faithful
  have weight := legible.weight.faithful
  refine ⟨⟨index.canonical, bound.canonical, weight.canonical, trivial⟩,
    record_object ?_⟩
  simp [required_head, index.decoded, bound.decoded, weight.decoded]

theorem Histogram.Checkpoint.Legible.faithful {checkpoint : Checkpoint α}
    (legible : checkpoint.Legible) :
    Faithful toJson ofJson? checkpoint := by
  have layout := legible.layout.faithful
  have total := legible.totalWeight.faithful
  have buckets := Faithful.list checkpoint.buckets fun bucket member =>
    (legible.buckets bucket member).faithful
  refine ⟨⟨layout.canonical, total.canonical, buckets.canonical, trivial⟩,
    record_object ?_⟩
  simp [required_head, layout.decoded, total.decoded, buckets.decoded]

theorem Estimator.State.Legible.faithful {state : State α}
    (legible : state.Legible) : Faithful toJson ofJson? state := by
  have mean := legible.mean.faithful
  have spread := legible.stdDev.faithful
  have variance := legible.varianceSum.faithful
  have least := legible.minValue.faithful
  have greatest := legible.maxValue.faithful
  have quantiles := faithful_quantiles legible.quantiles
  have first := faithful_times legible.firstSampleStart
  have last := faithful_times legible.lastSampleStart
  have count := faithful_count state.totalSamplesCount
  have histogram := legible.histogram.faithful
  refine ⟨⟨mean.canonical, spread.canonical, variance.canonical,
    least.canonical, greatest.canonical, quantiles.canonical,
    first.canonical, last.canonical, count.canonical, histogram.canonical,
    trivial⟩, record_object ?_⟩
  rw [bind_required mean.decoded (by simp),
    bind_required spread.decoded (by simp),
    bind_required variance.decoded (by simp),
    bind_required least.decoded (by simp),
    bind_required greatest.decoded (by simp),
    bind_required quantiles.decoded (by simp),
    bind_nameable first.decoded (by simp),
    bind_nameable last.decoded (by simp),
    bind_required count.decoded (by simp),
    bind_required histogram.decoded (by simp)]
  rfl

namespace Checkpoint

theorem faithful_entry {entry : Entry α}
    (legible : ∀ state ∈ entry.values, state.Legible) :
    Faithful entryToJson entryOfJson? entry :=
  Faithful.map Resource.ofName?_name fun state member =>
    (legible state member).faithful

theorem Legible.faithful {checkpoint : Checkpoint α}
    (legible : checkpoint.Legible) :
    Faithful toJson ofJson? checkpoint := by
  have key := checkpoint.key.faithful
  have savedAt := legible.savedAt.faithful
  have entries : Faithful entriesToJson (mapOf some entryOfJson?)
      checkpoint.entries :=
    Faithful.map (fun _ => rfl) fun entry member =>
      faithful_entry (legible.states entry member)
  refine ⟨⟨key.canonical, savedAt.canonical, entries.canonical, trivial⟩,
    record_object ?_⟩
  simp [required_head, key.decoded, savedAt.decoded, entries.decoded]

end Checkpoint

end UsageForecast
