import UsageForecast.Checkpoint.Directory
import UsageForecast.Proofs.CheckpointNumbers
import UsageForecast.Proofs.RegisteredProfilers
import UsageForecast.Proofs.SoundProfiler

/-!
# The numbers of buckets

An index is computed from a value as a word, and is read as a word.  So the
buckets of all estimators of a run are numbered by words if its checkpoints
come from texts.
-/

namespace UsageForecast

/-- The whole part of a value is a word. -/
class WordScalar (α : Type) [Analytic α] : Prop where
  floorIndex_lt (value : α) : Analytic.floorIndex value < UInt64.size

instance : WordScalar Float where
  floorIndex_lt value := value.toUInt64.toNat_lt

/-- The buckets of an estimator are numbered by words. -/
def Estimator.Numbered {α : Type} (estimator : Estimator α) : Prop :=
  ∀ index ∈ estimator.histogram.weights.keys, index < UInt64.size

namespace Estimator

variable {α : Type} [Analytic α]

theorem numbered_forResource (resource : Resource)
    (quantiles : List (Quantile α)) :
    (forResource resource quantiles).Numbered := nofun

theorem Numbered.decay {estimator : Estimator α}
    (numbered : estimator.Numbered) (factor : α) :
    (estimator.decay factor).Numbered := by
  intro index member
  apply numbered
  unfold Estimator.decay Histogram.decay at member
  dsimp only at member
  split at member
  · exact member
  · rw [SortedMap.mem_keys_iff, SortedMap.find?_filter,
      SortedMap.find?_mapValues] at member
    rw [SortedMap.mem_keys_iff]
    have kept := Option.isSome_of_isSome_filter _ _ member
    rwa [Option.isSome_map] at kept

omit [Analytic α] in
theorem numbered_load (estimator : Estimator α) {state : State α}
    (numbered : ∀ bucket ∈ state.histogram.buckets,
      bucket.index < UInt64.size) : (estimator.load state).Numbered := by
  intro index member
  obtain ⟨⟨_, weight⟩, weighted, rfl⟩ :=
    List.mem_map.1 (SortedMap.mem_keys_ofList.1 member)
  obtain ⟨bucket, counted, same⟩ := List.mem_map.1 weighted
  cases same
  exact numbered bucket counted

theorem numbered_find [WordScalar α] (layout : Layout α) (value : α) :
    layout.find value < UInt64.size := by
  unfold Layout.find
  split
  · decide
  · exact lt_of_le_of_lt (Nat.min_le_left _ _)
      (WordScalar.floorIndex_lt _)

theorem Numbered.ingest [WordScalar α] {estimator : Estimator α}
    (numbered : estimator.Numbered) (sample : Sample α) :
    (estimator.ingest sample).Numbered := by
  unfold Estimator.ingest
  split
  · intro index member
    unfold Histogram.add at member
    dsimp only at member
    split at member
    · exact numbered index member
    · rcases SortedMap.mem_keys_insert_iff.1 member with rfl | earlier
      · exact numbered_find _ _
      · exact numbered index earlier
  · exact numbered

theorem Numbered.state {estimator : Estimator α}
    (numbered : estimator.Numbered) :
    ∀ bucket ∈ estimator.state.histogram.buckets,
      bucket.index < UInt64.size := by
  intro bucket counted
  obtain ⟨weighed, weighted, rfl⟩ := List.mem_map.1 counted
  exact numbered weighed.1 (List.mem_map_of_mem weighted)

end Estimator

section Reading

open Json

variable {α : Type} [Scalar α]

theorem Histogram.Bucket.numbered_of_read {value : Json} {bucket : Bucket α}
    (read : ofJson? value = some bucket) :
    bucket.index < UInt64.size := by
  obtain ⟨_, _, read⟩ := of_record read
  obtain ⟨index, _, word, read⟩ := of_bind read
  obtain ⟨_, _, -, read⟩ := of_bind read
  obtain ⟨_, _, -, read⟩ := of_bind read
  cases read
  obtain ⟨_, decoded⟩ := of_required word
  exact word?_lt decoded

theorem Histogram.Checkpoint.numbered_of_read {value : Json}
    {checkpoint : Checkpoint α}
    (read : ofJson? value = some checkpoint) :
    ∀ bucket ∈ checkpoint.buckets, bucket.index < UInt64.size := by
  obtain ⟨_, _, read⟩ := of_record read
  obtain ⟨_, _, -, read⟩ := of_bind read
  obtain ⟨_, _, -, read⟩ := of_bind read
  obtain ⟨_, _, buckets, read⟩ := of_bind read
  cases read
  obtain ⟨_, listed⟩ := of_required buckets
  intro bucket member
  obtain ⟨_, decoded⟩ := of_listOf_mem listed bucket member
  exact Bucket.numbered_of_read decoded

theorem Estimator.State.numbered_of_read {value : Json}
    {state : State α} (read : ofJson? value = some state) :
    ∀ bucket ∈ state.histogram.buckets, bucket.index < UInt64.size := by
  obtain ⟨_, _, read⟩ := of_record read
  iterate 9 obtain ⟨_, _, -, read⟩ := of_bind read
  obtain ⟨_, _, histogram, read⟩ := of_bind read
  cases read
  obtain ⟨_, decoded⟩ := of_required histogram
  exact Histogram.Checkpoint.numbered_of_read decoded

/-- The buckets of a checkpoint that was read are numbered by words. -/
theorem Checkpoint.numbered_of_read {value : Json}
    {checkpoint : Checkpoint α} (read : ofJson? value = some checkpoint) :
    checkpoint.Numbered := by
  obtain ⟨_, _, read⟩ := of_record read
  obtain ⟨_, _, -, read⟩ := of_bind read
  obtain ⟨_, _, -, read⟩ := of_bind read
  obtain ⟨_, _, entries, read⟩ := of_bind read
  cases read
  obtain ⟨_, entries⟩ := of_required entries
  intro index member
  obtain ⟨state, listed, held⟩ := List.mem_flatMap.1 member
  obtain ⟨entry, within, holds⟩ := List.mem_flatMap.1 listed
  obtain ⟨bucket, counted, rfl⟩ := List.mem_map.1 held
  obtain ⟨_, decoded⟩ := of_mapOf_mem entries entry within
  obtain ⟨_, state⟩ := of_mapOf_mem decoded state holds
  exact Estimator.State.numbered_of_read state bucket counted

end Reading

theorem Directory.load_eq {α : Type} [Scalar α] [Checkpoint.Diagnosis]
    (directory : Directory) (key : ProfileKey) :
    (CheckpointStore.load directory key :
      Except Failure (Option (Checkpoint α))) =
        (directory.load key).mapError directory.failure := rfl

theorem Directory.numbered_of_load {α : Type} [Scalar α]
    {directory : Directory} {key : ProfileKey} {checkpoint : Checkpoint α}
    (loaded : directory.load key = .ok (some checkpoint)) :
    checkpoint.Numbered := by
  unfold load at loaded
  split at loaded
  next found read =>
    have same : found = checkpoint := by
      split at loaded
      · cases loaded
        rfl
      · cases loaded
    subst same
    unfold readFile at read
    split at read
    · split at read
      · cases read
      · cases read
      · split at read
        next decoded =>
          cases read
          obtain ⟨_, -, decoded⟩ := Option.bind_eq_some_iff.1 decoded
          exact Checkpoint.numbered_of_read decoded
        next => cases read
    · cases read
  next missing =>
    exact absurd loaded (missing checkpoint)

namespace Profiler

variable {α : Type} [Analytic α]

/-- The buckets of all estimators are numbered by words. -/
def Numbered (profiler : Profiler α) : Prop :=
  profiler.Every fun _ estimator => estimator.Numbered

theorem Numbered.checkpoint {profiler : Profiler α}
    (numbered : profiler.Numbered) (now : Instant) :
    (profiler.checkpoint now).Numbered := by
  intro index member
  obtain ⟨state, listed, held⟩ := List.mem_flatMap.1 member
  obtain ⟨entry, within, holds⟩ := List.mem_flatMap.1 listed
  obtain ⟨name, named⟩ := SortedMap.mem_values_iff.1 within
  obtain ⟨resource, found⟩ := SortedMap.mem_values_iff.1 holds
  rw [Profiler.checkpoint, SortedMap.find?_mapValues] at named
  obtain ⟨source, known, rfl⟩ := Option.map_eq_some_iff.1 named
  rw [Entry.states, SortedMap.find?_mapValues] at found
  obtain ⟨estimator, estimates, rfl⟩ := Option.map_eq_some_iff.1 found
  obtain ⟨bucket, counted, rfl⟩ := List.mem_map.1 held
  refine Estimator.Numbered.state (numbered name resource estimator ?_)
    bucket counted
  rw [estimator?, known]
  exact estimates

/-- Over a directory the buckets of registered profilers stay numbered by
words. -/
theorem lasting_numbered [WordScalar α] [Checkpoint.Diagnosis] :
    Lasting Directory (Numbered (α := α)) where
  created := every_create _
  updated := by
    intro profiler spec numbered name resource estimator found
    rw [estimator?_update] at found
    obtain ⟨earlier, kept, rfl⟩ := Option.map_eq_some_iff.1 found
    exact numbered name resource earlier
      (Option.filter_eq_some_iff.1 kept).1
  restored := by
    intro profiler restored now store key checkpoint numbered loaded
      succeeded
    have readNumbered : checkpoint.Numbered := by
      rw [Directory.load_eq] at loaded
      cases read : (store.load key :
          Except Directory.Fault (Option (Checkpoint α))) with
      | error fault =>
          rw [read] at loaded
          cases loaded
      | ok held =>
          rw [read] at loaded
          cases loaded
          exact Directory.numbered_of_load read
    obtain ⟨-, rfl⟩ := restore_eq_ok_iff.1 succeeded
    intro name resource estimator found
    change (profiler.takeOver now checkpoint).estimator? name resource =
      some estimator at found
    rw [estimator?_takeOver, Option.or_eq_some_iff] at found
    rcases found with fresh | ⟨-, kept⟩
    · obtain ⟨state, saved, rfl⟩ := Option.map_eq_some_iff.1 fresh
      obtain ⟨entry, within, holds⟩ := Option.bind_eq_some_iff.1
        (Option.filter_eq_some_iff.1 saved).1
      have listed : state ∈ checkpoint.states :=
        List.mem_flatMap.2 ⟨entry, SortedMap.mem_values_iff.2 ⟨name, within⟩,
          SortedMap.mem_values_iff.2 ⟨resource, holds⟩⟩
      refine Estimator.numbered_load _ fun bucket counted => ?_
      exact readNumbered bucket.index (List.mem_flatMap.2
        ⟨state, listed, List.mem_map_of_mem counted⟩)
    · exact numbered name resource estimator kept
  cycled := by
    intro profiler settings resolver repository now numbered
    unfold cycled
    split
    · exact numbered
    next pods _ =>
      have advanced : (profiler.advance settings resolver repository now
          pods).Numbered := by
        apply every_advance
        · intro resource asked
          exact Estimator.numbered_forResource _ _
        · intro resource estimator factor earlier
          exact earlier.decay factor
        · intro resource estimator sample earlier
          exact earlier.ingest sample
        · exact numbered
      dsimp only
      split
      · exact advanced
      · exact advanced

end Profiler

end UsageForecast
