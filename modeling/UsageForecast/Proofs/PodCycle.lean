import UsageForecast.Proofs.ExactScalar
import UsageForecast.Proofs.PodTotals
import UsageForecast.Proofs.SoundProfiler

/-!
# What a cycle folds for whole pods

With exact numbers a cycle that looks at pods as a whole folds, for every pod
each of whose containers has a reading, the sum of these readings, if its time
is new.  Pods do not influence one another: what is folded and reported of a
pod depends on its own containers only.
-/

namespace UsageForecast

namespace Profiler

open Exact

variable {σ K : Type} [Field K] [LinearOrder K] [FloorRing K]
  [Transcendental K]

/-- The sample of a pod each of whose containers has a reading: their sum. -/
def Whole (repository : Repository K) (query : Source × Resource) (pod : Pod)
    (sample : Sample K) : Prop :=
  pod.containers ≠ [] ∧ ∃ readings : List (Sample K),
    podReadings repository query pod = readings.map some ∧
      (∀ reading ∈ readings, reading.timestamp = sample.timestamp) ∧
        sample.value = (readings.map Sample.value).sum

theorem whole_iff {repository : Repository K} {query : Source × Resource}
    {pod : Pod} {sample : Sample K} :
    Whole repository query pod sample ↔
      ∃ first rest,
        podReadings repository query pod = (first :: rest).map some ∧
          sample = total first rest := by
  have timed {readings : List (Sample K)}
      (read : podReadings repository query pod = readings.map some) :
      ∀ reading ∈ readings, repository.time? query.1 pod.id =
        some reading.timestamp := by
    intro reading listed
    have shown : some reading ∈ podReadings repository query pod := by
      rw [read]
      exact List.mem_map_of_mem listed
    obtain ⟨container, -, shown⟩ := List.mem_map.1 shown
    exact Repository.time?_of_reading shown
  have summed {first : Sample K} {rest : List (Sample K)}
      (read : podReadings repository query pod =
        (first :: rest).map some) :
      (total first rest).timestamp = first.timestamp := by
    refine latest_foldl fun reading listed => ?_
    have head := timed read first List.mem_cons_self
    rw [timed read reading (List.mem_cons_of_mem _ listed)] at head
    exact Option.some.inj head
  constructor
  · rintro ⟨inhabited, readings, read, times, value⟩
    cases readings with
    | nil => exact absurd (List.map_eq_nil_iff.1 read) inhabited
    | cons first rest =>
        refine ⟨first, rest, read, ?_⟩
        obtain ⟨time, amount⟩ := sample
        obtain rfl : first.timestamp = time :=
          times first List.mem_cons_self
        rw [← summed read, show amount = (total first rest).value from
          value.trans (sum_eq _).symm]
  · rintro ⟨first, rest, read, rfl⟩
    refine ⟨fun none => ?_, first :: rest, read, fun reading listed => ?_,
      sum_eq _⟩
    · rw [podReadings, none] at read
      cases read
    · have head := timed read first List.mem_cons_self
      rw [timed read reading listed] at head
      rw [summed read]
      exact Option.some.inj head

/-- A completed cycle that looks at pods as a whole folds, for each requested
resource and each resolved pod, at most one sample: the sum of the readings of
its own containers, exactly if each of them has one and the time is not the
one that was folded last for the pod and the resource.  A pod of which only a
part has readings is named by exactly one failure. -/
theorem pod_cycle_folds [CheckpointStore σ K]
    {settings : Settings K} {resolver : Resolver}
    {repository : Repository K} {now : Instant} {store : σ}
    {profiler : Profiler K} {times : String → Observed → Option Instant}
    (remembers : profiler.Remembers times)
    (level : profiler.key.level = .pod)
    (distinct : (profiler.spec.queries.map Prod.snd).Nodup)
    (identified : ∀ cluster, resolver.cluster = .ok cluster →
      (cluster.pods.map Pod.id).Nodup) {report : Report}
    (completed : (profiler.profile settings resolver repository now
      store).outcome = .completed report) :
    let cycle := profiler.profile settings resolver repository now store
    let next := cycle.profiler
    ∃ pods, resolver.pods profiler.key.target = .ok pods ∧
      ∃ (folded : Resource → List (PodName × Sample K))
          (faults : List Fault) (unsaved : Option String),
        (∀ query ∈ profiler.spec.queries, ∀ pod ∈ pods,
          (∀ sample, (pod.id, sample) ∈ folded query.2 ↔
            Whole repository query pod sample ∧
              times podEntry ⟨pod.id, query.2⟩ ≠ some sample.timestamp) ∧
          let seen := (podReadings repository query pod).reduceOption.length
          faults.filter (Fault.names pod.id query.2) =
            if 0 < seen ∧ seen < pod.containers.length then
              [.incomplete query.1 pod.id query.2 seen pod.containers.length]
            else []) ∧
        (∀ resource, ((folded resource).map Prod.fst).Nodup ∧
          ∀ pod sample, (pod, sample) ∈ folded resource →
            pod ∈ pods.map Pod.id ∧
              resource ∈ profiler.spec.queries.map Prod.snd) ∧
        (unsaved.isSome = cycle.unsaved ∧
          report.failures = faults.map Fault.text ++ unsaved.toList) ∧
        (pods ≠ [] → ∀ resource,
          next.estimator? podEntry resource =
            Estimator.ingestAll profiler.spec.quantiles resource
              ((profiler.estimator? podEntry resource).map
                fun estimator =>
                  estimator.decay (profiler.cycleFactor settings))
              ((folded resource).map Prod.snd) ∧
          Estimator.counted (next.estimator? podEntry resource) =
            Estimator.counted (profiler.estimator? podEntry resource) +
              UInt64.ofNat (folded resource).length) ∧
        (∀ name resource, name ≠ podEntry ∨ pods = [] →
          next.estimator? name resource =
            (profiler.estimator? name resource).map (fun estimator =>
              estimator.decay (profiler.cycleFactor settings)) ∨
          next.estimator? name resource = none ∧
            profiler.Overdue settings now name) ∧
        report.samples = (profiler.spec.resources.flatMap folded).length ∧
        (pods ≠ [] → UInt64.ofNat report.samples =
          (profiler.spec.resources.map fun resource =>
            Estimator.counted (next.estimator? podEntry resource) -
              Estimator.counted
                (profiler.estimator? podEntry resource)).sum) := by
  intro cycle next
  obtain ⟨pods, resolved, published, samples, unsaved, saved, failures⟩ :=
    profile_of_report completed
  have advanced : next = (profiler.advance settings resolver repository now
      pods).publish := published
  have record : profiler.lastFolded? = times := remembers.eq
  have different := Resolver.nodup_pods resolved identified
  have agree := agree_of_distinct resolver repository level distinct
    different
  have grown (inhabited : pods ≠ []) (resource : Resource) :=
    counted_of_kept resource
      (kept_of_pods resolver repository settings now level inhabited)
      fun _ _ => isFinite_eq _
  rw [record] at grown
  rw [advanced]
  refine ⟨pods, resolved, fun resource => samplesFor resource
    (taken (times podEntry)
      (profiler.offersTo resolver repository pods podEntry)),
    profiler.spec.queries.flatMap (queryFaults repository
      (containerNames resolver profiler.key.target pods) pods), unsaved,
    ?_, ?_, ?_, ?_, ?_, ?_, ?_⟩
  · intro query asked pod listed
    refine ⟨fun sample => ?_,
      faults_naming distinct different asked listed⟩
    rw [mem_samplesFor_iff, mem_taken_iff agree, mem_offersTo_pod_iff level,
      whole_iff]
    refine and_congr_left' ⟨?_, ?_⟩
    · rintro ⟨other, otherAsked, member, otherListed, first, rest, read,
        same⟩
      obtain ⟨slots, rfl⟩ := Offer.mk.inj same
      obtain ⟨names, resources⟩ := Observed.mk.inj slots
      obtain rfl :=
        List.inj_on_of_nodup_map distinct asked otherAsked resources
      obtain rfl :=
        List.inj_on_of_nodup_map different listed otherListed names
      exact ⟨first, rest, read, rfl⟩
    · rintro ⟨first, rest, read, rfl⟩
      exact ⟨query, asked, pod, listed, first, rest, read, rfl⟩
  · intro resource
    refine ⟨nodup_samplesFor_taken fun left leftMember right rightMember
      same => by rw [agree left leftMember right rightMember same],
      fun pod sample member => ?_⟩
    obtain ⟨query, asked, other, listed, first, rest, -, same⟩ :=
      (mem_offersTo_pod_iff level).1
        (taken_subset (mem_samplesFor_iff.1 member))
    obtain ⟨rfl, rfl⟩ := Observed.mk.inj (Offer.mk.inj same).1
    exact ⟨List.mem_map_of_mem listed, List.mem_map_of_mem asked⟩
  · exact ⟨saved, by rw [failures, failures_tally_pod level]⟩
  · intro inhabited resource
    refine ⟨?_, grown inhabited resource⟩
    rw [← record]
    exact estimator?_of_kept resource
      (kept_of_pods resolver repository settings now level inhabited)
  · intro name resource idle
    exact estimator?_of_idle (offersTo_of_idle level idle) resource
  · rw [samples, count_served_pods level, record]
  · intro inhabited
    rw [samples, count_served_pods level, record, List.length_flatMap,
      ← sum_map_ofNat]
    refine congrArg List.sum (List.map_congr_left fun resource _ => ?_)
    change _ = Estimator.counted ((profiler.advance settings resolver
      repository now pods).estimator? podEntry resource) - _
    rw [grown inhabited resource, UInt64.add_comm, UInt64.add_sub_cancel]

/-!
## A pod that is gone for one cycle

The pod has two containers.  The caches show it at the same time throughout.
-/

namespace Departure

def pod : Pod :=
  ⟨⟨"default", "web-1"⟩, ∅, ["app", "proxy"], some "Running"⟩

def resolver (pods : List Pod) : Resolver :=
  ⟨[], Cache.empty.replace ⟨0, 0⟩ ⟨∅, pods⟩⟩

def usage : PodUsage ℝ :=
  ((PodUsage.empty ⟨0, 0⟩).insert "app" .cpu (.value 1)).insert "proxy" .cpu
    (.value 1)

def repository : Repository ℝ :=
  { caches := SortedMap.ofList [(.metricsApi, Cache.empty.replace ⟨90, 0⟩
      ((∅ : UsageSnapshot ℝ).insert pod.id usage))] }

def spec : Spec ℝ :=
  ⟨none, [⟨.metricsApi, [.cpu]⟩], [.distribution DistributionModel.standard]⟩

def profiler : Profiler ℝ :=
  .create (.ofSpec (.pods "default" ⟨∅, []⟩) .pod spec) spec

def settings : Settings ℝ := ⟨600, 288⟩

noncomputable def first : Cycle (MemoryStore ℝ) ℝ :=
  profiler.profile settings (resolver [pod]) repository ⟨100, 0⟩ ∅

/-- A cycle while the pod is gone. -/
noncomputable def second : Cycle (MemoryStore ℝ) ℝ :=
  first.profiler.profile settings (resolver []) repository ⟨200, 0⟩
    first.store

/-- A cycle when the pod is back. -/
noncomputable def third : Cycle (MemoryStore ℝ) ℝ :=
  second.profiler.profile settings (resolver [pod]) repository ⟨300, 0⟩
    second.store

private theorem readings :
    podReadings repository (.metricsApi, .cpu) pod =
      [⟨⟨0, 0⟩, 1⟩, ⟨⟨0, 0⟩, 1⟩].map some := by
  have read (amount : ℝ) (admitted : 0 ≤ amount) :
      (Measurement.value amount).read .cpu = .ok amount := by
    simp [Measurement.read, Quantity.check, admitted, Except.mapError]
  have found : repository.snapshot? .metricsApi =
      some ((∅ : UsageSnapshot ℝ).insert pod.id usage) := rfl
  have app : usage.find? "app" .cpu = some (.value 1) := rfl
  have proxy : usage.find? "proxy" .cpu = some (.value 1) := rfl
  have shown (container : String) (amount : ℝ) (admitted : 0 ≤ amount)
      (measured : usage.find? container .cpu = some (.value amount)) :
      repository.reading? .metricsApi .cpu container pod.id =
        some ⟨⟨0, 0⟩, amount⟩ := by
    rw [Repository.reading?, found, Option.bind_some, UsageSnapshot.reading?,
      SortedMap.find?_insert_self]
    simp only [bind, Option.bind_some, measured, read amount admitted]
    rfl
  simp only [podReadings, pod, List.map_cons, List.map_nil] at shown ⊢
  rw [shown "app" 1 zero_le_one app, shown "proxy" 1 zero_le_one proxy]

private theorem resolved :
    (resolver [pod]).pods profiler.key.target = .ok [pod] := by
  change Except.ok (Resolver.select ⟨∅, [pod]⟩ "default" ⟨∅, []⟩) = _
  have covered : [pod].filter (Resolver.covers "default" ⟨∅, []⟩) = [pod] :=
    by decide
  rw [Resolver.select, covered, List.mergeSort_singleton]

private theorem unresolved :
    (resolver []).pods profiler.key.target = .ok [] := by
  change Except.ok (Resolver.select ⟨∅, []⟩ "default" ⟨∅, []⟩) = _
  rw [Resolver.select, List.filter_nil, List.mergeSort_nil]

/-- A profiler of this profile. -/
private structure Same (other : Profiler ℝ) : Prop where
  key : other.key = profiler.key
  spec : other.spec = spec
  bounded : other.Bounded

private noncomputable def offer : Offer ℝ :=
  ⟨⟨pod.id, .cpu⟩, total ⟨⟨0, 0⟩, 1⟩ [⟨⟨0, 0⟩, 1⟩]⟩

private theorem offersFor_same {other : Profiler ℝ} (same : Same other) :
    other.offersFor (resolver [pod]) repository [pod] =
      [(podEntry, [offer])] := by
  have level : other.key.level = .pod := by
    rw [same.key]
    rfl
  have queries : other.spec.queries = [(.metricsApi, .cpu)] := by
    rw [same.spec]
    rfl
  have asked : Asked (containerNames (resolver [pod]) other.key.target [pod])
      [pod] := fun member listed container declared =>
    mem_containerNames_iff.2 (.inl ⟨member, listed, declared⟩)
  have answered : samplesOf (askAll repository (containerNames
      (resolver [pod]) other.key.target [pod]) ([pod].map Pod.id)
      (.metricsApi, .cpu) .zero).1 pod = _ :=
    samplesOf_resolved asked (List.mem_singleton_self pod) .zero
  rw [offersFor_pod level, queries, List.flatMap_singleton, totalOffers,
    List.flatMap_singleton, podOffers, answered, readings]
  rfl

/-- A cycle that finds the pod folds its total, unless it did so last. -/
private theorem cycle_same {other : Profiler ℝ} (same : Same other)
    (now : Instant) (store : MemoryStore ℝ) :
    let cycle := other.profile settings (resolver [pod]) repository now store
    cycle.samples? = some (if other.lastFolded? podEntry offer.observed =
      some offer.sample.timestamp then 0 else 1) ∧ Same cycle.profiler ∧
      cycle.profiler.lastFolded? podEntry offer.observed =
        some offer.sample.timestamp := by
  have found : (resolver [pod]).pods other.key.target = .ok [pod] := by
    rw [same.key]
    exact resolved
  have level : other.key.level = .pod := by
    rw [same.key]
    rfl
  have member : (podEntry, [offer]) ∈
      other.offersFor (resolver [pod]) repository [pod] := by
    rw [offersFor_same same]
    exact List.mem_singleton_self _
  have kept := kept_of_pods (resolver [pod]) repository settings now level
    (List.cons_ne_nil pod [])
  have bounded : (other.advance settings (resolver [pod]) repository now
      [pod]).Bounded := bounded_advance same.bounded
  obtain ⟨samples, published⟩ :=
    samples_of_reportable store found (reportable_of_bounded bounded)
  dsimp only
  rw [samples, published]
  refine ⟨?_, ⟨same.key, same.spec, bounded⟩, ?_⟩
  · rw [count_served settings now, offersFor_same same,
      List.flatMap_singleton, taken]
    split <;> rfl
  · refine (lastFolded?_advance offer.observed).trans ?_
    have listed : offer.observed.pod ∈ [pod].map Pod.id :=
      List.mem_singleton_self _
    rw [if_pos ⟨listed, kept⟩, offersTo_of_mem member, taken]
    split
    next settled => exact settled
    next => simp [taken, lastTime?]

private theorem same_profiler : Same profiler :=
  ⟨rfl, rfl, every_create _ _ _⟩

/-- A cycle that does not find the pod forgets it. -/
private theorem cycle_emptied {other : Profiler ℝ} (same : Same other)
    (now : Instant) (store : MemoryStore ℝ) :
    let cycle := other.profile settings (resolver []) repository now store
    cycle.samples? = some 0 ∧ Same cycle.profiler ∧
      cycle.profiler.lastFolded? podEntry offer.observed = none := by
  have found : (resolver []).pods other.key.target = .ok [] := by
    rw [same.key]
    exact unresolved
  have level : other.key.level = .pod := by
    rw [same.key]
    rfl
  have bounded : (other.advance settings (resolver []) repository now
      []).Bounded := bounded_advance same.bounded
  obtain ⟨samples, published⟩ :=
    samples_of_reportable store found (reportable_of_bounded bounded)
  dsimp only
  rw [samples, published]
  refine ⟨?_, ⟨same.key, same.spec, bounded⟩, ?_⟩
  · have nothing : other.offersTo (resolver []) repository [] podEntry =
        [] := offersTo_of_idle level (.inr rfl)
    rw [count_served_pods level, nothing]
    simp [taken, samplesFor]
  · refine (lastFolded?_advance offer.observed).trans (if_neg ?_)
    rintro ⟨listed, -⟩
    cases listed

end Departure

/-- The first cycle of the example folds the sum over the containers of its
pod. -/
theorem total_of_pod_folded :
    ∃ report, Departure.first.outcome = .completed report ∧
      report.samples = 1 ∧
        ∃ sample, Whole Departure.repository (.metricsApi, .cpu)
          Departure.pod sample := by
  have one : Departure.first.samples? = some 1 :=
    (Departure.cycle_same Departure.same_profiler ⟨100, 0⟩ ∅).1
  obtain ⟨report, completed, single⟩ := Cycle.completed_of_samples one
  have remembers : Departure.profiler.Remembers fun _ _ => none :=
    .create _ _
  have distinct : (Departure.profiler.spec.queries.map Prod.snd).Nodup :=
    List.nodup_singleton _
  have identified : ∀ cluster,
      (Departure.resolver [Departure.pod]).cluster = .ok cluster →
        (cluster.pods.map Pod.id).Nodup := by
    intro cluster known
    obtain rfl := Except.ok.inj known
    exact List.nodup_singleton _
  obtain ⟨pods, found, folded, _, _, each, others, -, -, -, total, -⟩ :=
    pod_cycle_folds remembers rfl distinct identified completed
  obtain rfl : pods = [Departure.pod] :=
    Except.ok.inj (found.symm.trans Departure.resolved)
  refine ⟨report, completed, single, ?_⟩
  by_contra incomplete
  have nothing (resource : Resource) : folded resource = [] := by
    refine List.eq_nil_iff_forall_not_mem.2 fun ⟨name, sample⟩ member => ?_
    obtain ⟨listed, asked⟩ := (others resource).2 name sample member
    obtain rfl := List.mem_singleton.1 listed
    obtain rfl : resource = .cpu := List.mem_singleton.1 asked
    have whole := ((each (.metricsApi, .cpu) (List.mem_singleton_self _)
      Departure.pod (List.mem_singleton_self _)).1 sample).1 member
    exact incomplete ⟨sample, whole.1⟩
  rw [single] at total
  simp [nothing] at total

/-- A pod that is gone for one cycle has its total folded again, at the time
that was folded last for it. -/
theorem returned_pod_folded_again :
    Departure.first.samples? = some 1 ∧
      Departure.second.samples? = some 0 ∧
      Departure.third.samples? = some 1 ∧
      Departure.first.profiler.lastFolded? podEntry
          ⟨Departure.pod.id, .cpu⟩ = some ⟨0, 0⟩ ∧
      podReadings Departure.repository (.metricsApi, .cpu) Departure.pod =
        [⟨⟨0, 0⟩, 1⟩, ⟨⟨0, 0⟩, 1⟩].map some := by
  obtain ⟨one, same, last⟩ := Departure.cycle_same Departure.same_profiler
    ⟨100, 0⟩ ∅
  obtain ⟨nothing, emptied, forgotten⟩ :=
    Departure.cycle_emptied same ⟨200, 0⟩ Departure.first.store
  obtain ⟨again, -, -⟩ := Departure.cycle_same emptied ⟨300, 0⟩
    Departure.second.store
  refine ⟨one, nothing, ?_, last, Departure.readings⟩
  rw [forgotten] at again
  exact again

end Profiler

end UsageForecast
