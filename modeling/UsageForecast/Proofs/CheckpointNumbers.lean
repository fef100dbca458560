import UsageForecast.Proofs.CheckpointText
import UsageForecast.Proofs.FiniteNumbers

/-!
# The numbers of a checkpoint

A number that is not finite is written as null, and no reader of a number
takes a null.  So the text of a checkpoint is read back at most if all its
numbers are finite.
-/

namespace UsageForecast

open Json

variable {α : Type}

def Layout.numbers (layout : Layout α) : List α :=
  [layout.firstBucketSize, layout.ratio, layout.maxValue]

def Histogram.Checkpoint.numbers (checkpoint : Checkpoint α) : List α :=
  checkpoint.layout.numbers ++ checkpoint.totalWeight ::
    checkpoint.buckets.flatMap fun bucket =>
      [bucket.lowerBound, bucket.weight]

namespace Estimator.State

def numbers (state : State α) : List α :=
  [state.mean, state.stdDev, state.varianceSum, state.minValue,
    state.maxValue] ++ state.quantiles.values ++ state.histogram.numbers

def times (state : State α) : List Instant :=
  state.firstSampleStart.toList ++ state.lastSampleStart.toList

end Estimator.State

namespace Checkpoint

def states (checkpoint : Checkpoint α) : List (Estimator.State α) :=
  checkpoint.entries.values.flatMap SortedMap.values

def numbers (checkpoint : Checkpoint α) : List α :=
  checkpoint.states.flatMap Estimator.State.numbers

def times (checkpoint : Checkpoint α) : List Instant :=
  checkpoint.savedAt :: checkpoint.states.flatMap Estimator.State.times

def indexes (checkpoint : Checkpoint α) : List Nat :=
  checkpoint.states.flatMap fun state =>
    state.histogram.buckets.map Histogram.Bucket.index

variable [Scalar α]

/-- No number of the checkpoint is an infinity, or none at all. -/
def Finite (checkpoint : Checkpoint α) : Prop :=
  ∀ number ∈ checkpoint.numbers, Scalar.isFinite number = true

instance (checkpoint : Checkpoint α) : Decidable checkpoint.Finite :=
  inferInstanceAs (Decidable (∀ number ∈ _, _))

/-- The buckets are numbered by words. -/
def Numbered (checkpoint : Checkpoint α) : Prop :=
  ∀ index ∈ checkpoint.indexes, index < UInt64.size

instance (checkpoint : Checkpoint α) : Decidable checkpoint.Numbered :=
  inferInstanceAs (Decidable (∀ index ∈ _, _))

/-- The texts of the finite numbers and of the times are read back. -/
structure Transcribed (checkpoint : Checkpoint α) : Prop where
  numbers : ∀ number ∈ checkpoint.numbers,
    Scalar.isFinite number = true → Scalar.Legible number
  times : ∀ time ∈ checkpoint.times, time.Legible

end Checkpoint

section Canonical

variable [Scalar α] [DecimalScalar α]

theorem canonical_scalar (value : α) : (ofScalar value).Canonical := by
  unfold ofScalar
  split
  next decimal written => exact DecimalScalar.reduced written
  next => trivial

theorem canonical_quantiles (quantiles : SortedMap String α) :
    (quantilesToJson quantiles).Canonical :=
  canonicalMembers_iff.2 fun member listed => by
    obtain ⟨entry, -, rfl⟩ := List.mem_map.1 listed
    exact canonical_scalar entry.2

theorem Layout.canonical (layout : Layout α) : layout.toJson.Canonical :=
  ⟨canonical_scalar _, canonical_scalar _, canonical_scalar _, trivial⟩

theorem Histogram.Checkpoint.canonical {checkpoint : Checkpoint α}
    (numbered : ∀ bucket ∈ checkpoint.buckets,
      bucket.index < UInt64.size) : checkpoint.toJson.Canonical := by
  refine ⟨checkpoint.layout.canonical, canonical_scalar _, ?_, trivial⟩
  refine canonicalItems_iff.2 fun item listed => ?_
  obtain ⟨bucket, member, rfl⟩ := List.mem_map.1 listed
  exact ⟨(faithful_word (numbered bucket member)).canonical,
    canonical_scalar _, canonical_scalar _, trivial⟩

theorem canonical_time (time : Option Instant) :
    (ofOption Instant.toJson time).Canonical := by
  cases time <;> trivial

theorem Estimator.State.canonical {state : State α}
    (numbered : ∀ bucket ∈ state.histogram.buckets,
      bucket.index < UInt64.size) : state.toJson.Canonical :=
  ⟨canonical_scalar _, canonical_scalar _, canonical_scalar _,
    canonical_scalar _, canonical_scalar _, canonical_quantiles _,
    canonical_time _, canonical_time _,
    (faithful_count state.totalSamplesCount).canonical,
    Histogram.Checkpoint.canonical numbered, trivial⟩

/-- Every checkpoint is written within the limits of the text. -/
theorem Checkpoint.Numbered.canonical {checkpoint : Checkpoint α}
    (numbered : checkpoint.Numbered) : checkpoint.toJson.Canonical := by
  refine ⟨checkpoint.key.faithful.canonical, trivial, ?_, trivial⟩
  refine canonicalMembers_iff.2 fun member listed => ?_
  obtain ⟨entry, within, rfl⟩ := List.mem_map.1 listed
  refine canonicalMembers_iff.2 fun member listed => ?_
  obtain ⟨named, holds, rfl⟩ := List.mem_map.1 listed
  refine Estimator.State.canonical fun bucket held => numbered _ ?_
  refine List.mem_flatMap.2 ⟨named.2, List.mem_flatMap.2 ⟨entry.2,
    List.mem_map_of_mem within, List.mem_map_of_mem holds⟩,
      List.mem_map_of_mem held⟩

end Canonical

section Finite

variable [Scalar α] [DecimalScalar α]

theorem isFinite_of_scalar? {value result : α}
    (read : scalar? (ofScalar value) = some result) :
    Scalar.isFinite value = true := by
  refine DecimalScalar.written_iff.1 ?_
  unfold ofScalar at read
  split at read
  next decimal written => exact ⟨decimal, written⟩
  next => cases read

theorem Layout.finite_of_read {layout result : Layout α}
    (read : ofJson? layout.toJson = some result) :
    ∀ number ∈ layout.numbers, Scalar.isFinite number = true := by
  obtain ⟨_, read⟩ := of_record_object read
  obtain ⟨_, first, read⟩ := of_bind_required (by simp) read
  obtain ⟨_, ratio, read⟩ := of_bind_required (by simp) read
  obtain ⟨_, greatest, -⟩ := of_bind_required (by simp) read
  simp only [numbers, List.forall_mem_cons]
  exact ⟨isFinite_of_scalar? first, isFinite_of_scalar? ratio,
    isFinite_of_scalar? greatest, nofun⟩

theorem Histogram.Bucket.finite_of_read {bucket result : Bucket α}
    (read : ofJson? bucket.toJson = some result) :
    ∀ number ∈ [bucket.lowerBound, bucket.weight],
      Scalar.isFinite number = true := by
  obtain ⟨_, read⟩ := of_record_object read
  obtain ⟨_, -, read⟩ := of_bind_required (by simp) read
  obtain ⟨_, bound, read⟩ := of_bind_required (by simp) read
  obtain ⟨_, weight, -⟩ := of_bind_required (by simp) read
  simp only [List.forall_mem_cons]
  exact ⟨isFinite_of_scalar? bound, isFinite_of_scalar? weight, nofun⟩

theorem Histogram.Checkpoint.finite_of_read
    {checkpoint result : Checkpoint α}
    (read : ofJson? checkpoint.toJson = some result) :
    ∀ number ∈ checkpoint.numbers, Scalar.isFinite number = true := by
  obtain ⟨_, read⟩ := of_record_object read
  obtain ⟨_, layout, read⟩ := of_bind_required (by simp) read
  obtain ⟨_, total, read⟩ := of_bind_required (by simp) read
  obtain ⟨_, buckets, -⟩ := of_bind_required (by simp) read
  intro number member
  rcases List.mem_append.1 member with sized | member
  · exact Layout.finite_of_read layout number sized
  rcases List.mem_cons.1 member with rfl | member
  · exact isFinite_of_scalar? total
  · obtain ⟨bucket, listed, held⟩ := List.mem_flatMap.1 member
    obtain ⟨_, decoded⟩ := of_listOf buckets bucket listed
    exact Bucket.finite_of_read decoded number held

theorem Estimator.State.finite_of_read {state result : State α}
    (read : ofJson? state.toJson = some result) :
    ∀ number ∈ state.numbers, Scalar.isFinite number = true := by
  obtain ⟨_, read⟩ := of_record_object read
  obtain ⟨_, mean, read⟩ := of_bind_required (by simp) read
  obtain ⟨_, spread, read⟩ := of_bind_required (by simp) read
  obtain ⟨_, variance, read⟩ := of_bind_required (by simp) read
  obtain ⟨_, least, read⟩ := of_bind_required (by simp) read
  obtain ⟨_, greatest, read⟩ := of_bind_required (by simp) read
  obtain ⟨_, quantiles, read⟩ := of_bind_required (by simp) read
  obtain ⟨_, -, read⟩ := of_bind_nameable (by simp) read
  obtain ⟨_, -, read⟩ := of_bind_nameable (by simp) read
  obtain ⟨_, -, read⟩ := of_bind_required (by simp) read
  obtain ⟨_, histogram, -⟩ := of_bind_required (by simp) read
  have figures : ∀ number ∈ [state.mean, state.stdDev, state.varianceSum,
      state.minValue, state.maxValue], Scalar.isFinite number = true := by
    simp only [List.forall_mem_cons]
    exact ⟨isFinite_of_scalar? mean, isFinite_of_scalar? spread,
      isFinite_of_scalar? variance, isFinite_of_scalar? least,
      isFinite_of_scalar? greatest, nofun⟩
  intro number member
  rcases List.mem_append.1 member with member | weighed
  · rcases List.mem_append.1 member with figure | quantile
    · exact figures number figure
    · obtain ⟨_, decoded⟩ := of_mapOf quantiles number quantile
      exact isFinite_of_scalar? decoded
  · exact Histogram.Checkpoint.finite_of_read histogram number weighed

namespace Checkpoint

variable {checkpoint : Checkpoint α}

/-- A checkpoint that is read from its own data has finite numbers. -/
theorem finite_of_read {result : Checkpoint α}
    (read : ofJson? checkpoint.toJson = some result) :
    checkpoint.Finite := by
  obtain ⟨_, read⟩ := of_record_object read
  obtain ⟨_, -, read⟩ := of_bind_required (by simp) read
  obtain ⟨_, -, read⟩ := of_bind_required (by simp) read
  obtain ⟨_, entries, -⟩ := of_bind_required (by simp) read
  intro number member
  obtain ⟨state, listed, held⟩ := List.mem_flatMap.1 member
  obtain ⟨entry, within, holds⟩ := List.mem_flatMap.1 listed
  obtain ⟨_, stored⟩ := of_mapOf entries entry within
  obtain ⟨_, decoded⟩ := of_mapOf stored state holds
  exact Estimator.State.finite_of_read decoded number held

/-- The text of a checkpoint with a number that is not finite cannot be read
back. -/
theorem Numbered.unreadable (numbered : checkpoint.Numbered)
    (infinite : ¬ checkpoint.Finite) :
    Json.ofText? checkpoint.toJson.render >>= ofJson? (α := α) = none := by
  rw [Json.ofText?_render numbered.canonical]
  refine Option.eq_none_iff_forall_ne_some.2 fun result read => ?_
  exact infinite (finite_of_read read)

end Checkpoint

end Finite

variable [Scalar α]

theorem Estimator.State.legible_of_numbers {state : State α}
    (numbers : ∀ number ∈ state.numbers, Scalar.Legible number)
    (times : ∀ time ∈ state.times, time.Legible)
    (numbered : ∀ bucket ∈ state.histogram.buckets,
      bucket.index < UInt64.size) : state.Legible := by
  simp only [State.numbers, Histogram.Checkpoint.numbers, Layout.numbers,
    List.forall_mem_append, List.forall_mem_cons] at numbers
  obtain ⟨⟨⟨mean, spread, variance, least, greatest, -⟩, quantiles⟩,
    ⟨first, ratio, most, -⟩, total, buckets⟩ := numbers
  simp only [State.times, List.forall_mem_append, Option.mem_toList] at times
  exact {
    mean
    stdDev := spread
    varianceSum := variance
    minValue := least
    maxValue := greatest
    quantiles
    firstSampleStart := times.1
    lastSampleStart := times.2
    histogram := {
      layout := ⟨first, ratio, most⟩
      totalWeight := total
      buckets := fun bucket held => {
        index := numbered bucket held
        lowerBound := buckets _
          (List.mem_flatMap.2 ⟨bucket, held, List.mem_cons_self⟩)
        weight := buckets _ (List.mem_flatMap.2 ⟨bucket, held,
          List.mem_cons_of_mem _ List.mem_cons_self⟩) } } }

/-- A checkpoint with finite numbers is read back if their texts are. -/
theorem Checkpoint.Transcribed.legible {checkpoint : Checkpoint α}
    (transcribed : checkpoint.Transcribed)
    (numbered : checkpoint.Numbered) (finite : checkpoint.Finite) :
    checkpoint.Legible where
  savedAt := transcribed.times _ List.mem_cons_self
  states := by
    intro entry within state holds
    have listed : state ∈ checkpoint.states :=
      List.mem_flatMap.2 ⟨entry, within, holds⟩
    refine Estimator.State.legible_of_numbers ?_ ?_ ?_
    · intro number member
      have among : number ∈ checkpoint.numbers :=
        List.mem_flatMap.2 ⟨state, listed, member⟩
      exact transcribed.numbers number among (finite number among)
    · intro time member
      exact transcribed.times time (List.mem_cons_of_mem _
        (List.mem_flatMap.2 ⟨state, listed, member⟩))
    · intro bucket held
      exact numbered _ (List.mem_flatMap.2 ⟨state, listed,
        List.mem_map_of_mem held⟩)

end UsageForecast
