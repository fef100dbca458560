import Mathlib
import UsageForecast.Proofs.FoldHistory
import UsageForecast.Proofs.RepeatedCycles

/-!
# What a cycle folds for containers

A cycle that looks at containers folds into the estimator of a container and
a resource the well-formed readings of the resolved pods that are new to it:
those with another time than the reading folded last for the pod and the
resource.  Nothing else is folded, nothing is folded twice, and what the cycle
reports is what its estimators have counted.
-/

namespace UsageForecast

/-- Counters of fixed width add up like numbers. -/
theorem sum_map_ofNat {ι : Type} (items : List ι) (size : ι → Nat) :
    (items.map fun item => UInt64.ofNat (size item)).sum =
      UInt64.ofNat (items.map size).sum := by
  induction items with
  | nil => rfl
  | cons item items induction =>
      rw [List.map_cons, List.map_cons, List.sum_cons, List.sum_cons,
        induction, UInt64.ofNat_add]

namespace Profiler

/-- A container of a profile: one of its pods has it, or its workload
declares it. -/
def Covers (resolver : Resolver) (target : Target) (pods : List Pod)
    (container : String) : Prop :=
  (∃ pod ∈ pods, container ∈ pod.containers) ∨
    ∃ workload template, target = .workload workload ∧
      resolver.template workload = .ok template ∧
        container ∈ template.containers

theorem mem_containerNames_iff {resolver : Resolver} {target : Target}
    {pods : List Pod} {container : String} :
    container ∈ containerNames resolver target pods ↔
      Covers resolver target pods container := by
  unfold containerNames Covers
  rw [mem_sortDistinct_iff, List.mem_append, List.mem_flatMap]
  refine or_congr_right ?_
  cases target with
  | pods scope selector => simp
  | workload workload =>
      cases declared : resolver.template workload with
      | error failure => simp [declared]
      | ok template => simp [declared]

variable {σ α : Type} [Analytic α]

section

variable {resolver : Resolver} {repository : Repository α}
  {pods : List Pod} {profiler : Profiler α} {container : String}

theorem offersFor_container
    (level : profiler.key.level = .container) :
    profiler.offersFor resolver repository pods =
      (containerNames resolver profiler.key.target pods).map fun container =>
        (container, profiler.spec.queries.flatMap
          (queryOffers repository profiler.key (pods.map Pod.id)
            container)) := by
  rw [offersFor, offers, level]

variable (repository) in
theorem mem_offersFor_container
    (level : profiler.key.level = .container)
    (covered : Covers resolver profiler.key.target pods container) :
    (container, profiler.spec.queries.flatMap
        (queryOffers repository profiler.key (pods.map Pod.id)
          container)) ∈
      profiler.offersFor resolver repository pods := by
  rw [offersFor_container level]
  exact List.mem_map.2
    ⟨container, mem_containerNames_iff.2 covered, rfl⟩

theorem offersTo_of_uncovered (level : profiler.key.level = .container)
    (uncovered : ¬ Covers resolver profiler.key.target pods container) :
    profiler.offersTo resolver repository pods container = [] := by
  refine offersTo_of_not_mem ?_
  simpa [offersFor_container level, mem_containerNames_iff] using uncovered

/-- The offers to the entry of a container are the readings of the resolved
pods, if the container is one of the profile. -/
theorem mem_offersTo_container_iff
    (level : profiler.key.level = .container) {pod : PodName}
    {resource : Resource} {sample : Sample α} :
    ⟨⟨pod, resource⟩, sample⟩ ∈
        profiler.offersTo resolver repository pods container ↔
      Covers resolver profiler.key.target pods container ∧
        pod ∈ pods.map Pod.id ∧
          ∃ source, (source, resource) ∈ profiler.spec.queries ∧
            repository.reading? source resource container pod =
              some sample := by
  by_cases covered : Covers resolver profiler.key.target pods container
  · rw [offersTo_of_mem (mem_offersFor_container repository level covered),
      List.mem_flatMap]
    simp only [queryOffers_eq, List.mem_filterMap, mem_listing_iff,
      Option.map_eq_some_iff, Offer.mk.injEq, Observed.mk.injEq]
    constructor
    · rintro ⟨⟨source, _⟩, asked, _, resolved, _, shown, ⟨rfl, rfl⟩, rfl⟩
      exact ⟨covered, resolved, source, asked, shown⟩
    · rintro ⟨-, resolved, source, asked, shown⟩
      exact ⟨(source, resource), asked, pod, resolved, sample, shown,
        ⟨rfl, rfl⟩, rfl⟩
  · rw [offersTo_of_uncovered level covered]
    simp [covered]

variable (resolver repository pods container) in
/-- If every resource is served by one source only, a slot is offered one
sample. -/
theorem agree_of_separate (level : profiler.key.level = .container)
    (separate : profiler.spec.Separate) :
    ∀ left ∈ profiler.offersTo resolver repository pods container,
      ∀ right ∈ profiler.offersTo resolver repository pods container,
        left.observed = right.observed → left = right := by
  rintro ⟨⟨pod, resource⟩, left⟩ leftMember ⟨_, right⟩ rightMember rfl
  obtain ⟨-, -, leftSource, leftAsked, leftShown⟩ :=
    (mem_offersTo_container_iff level).1 leftMember
  obtain ⟨-, -, rightSource, rightAsked, rightShown⟩ :=
    (mem_offersTo_container_iff level).1 rightMember
  obtain rfl : leftSource = rightSource :=
    separate _ leftAsked _ rightAsked rfl
  rw [leftShown] at rightShown
  rw [Option.some.inj rightShown]

variable (repository) in
/-- An entry that a cycle serves at this level outlives the cycle. -/
theorem kept_of_covers (settings : Settings α) (now : Instant)
    (level : profiler.key.level = .container)
    (covered : Covers resolver profiler.key.target pods container) :
    (profiler.advance settings resolver repository now
      pods).entries.contains container := by
  have seen : profiler.refreshes pods = true := by
    rw [refreshes, level]
  have member := mem_offersFor_container repository level covered
  exact SortedMap.contains_iff.2 ⟨_, find?_advance_of_mem member seen⟩

/-- The samples that a cycle folds are counted container by container and
resource by resource. -/
theorem count_served_containers {settings : Settings α} {now : Instant}
    (level : profiler.key.level = .container) :
    (profiler.served settings resolver repository now pods).2 =
      ((containerNames resolver profiler.key.target pods).flatMap
        fun container => profiler.spec.resources.flatMap fun resource =>
          samplesFor resource (taken (profiler.lastFolded? container)
            (profiler.offersTo resolver repository pods
              container))).length := by
  rw [count_served settings now, offersFor_container level,
    List.flatMap_map, List.length_flatMap, List.length_flatMap]
  refine congrArg List.sum (List.map_congr_left fun container member => ?_)
  have distinct : profiler.spec.resources.Nodup := sortDistinct_nodup _
  rw [length_flatMap_samplesFor distinct, offersTo_of_mem
    (mem_offersFor_container repository level
      (mem_containerNames_iff.1 member))]
  · intro offer folded
    obtain ⟨-, -, source, asked, -⟩ :=
      (mem_offersTo_container_iff level).1 (taken_subset folded)
    exact List.contains_iff_mem.1 (Spec.asksFor_iff.2 ⟨source, asked⟩)

end

/-- A completed cycle that looks at containers folds into the estimator of a
container and a resource exactly the well-formed readings of the resolved
pods whose time is not the one that was folded last for the pod and the
resource, each of them once, and reports how many samples its estimators have
counted. -/
theorem container_cycle_folds [CheckpointStore σ α]
    {settings : Settings α} {resolver : Resolver}
    {repository : Repository α} {now : Instant} {store : σ}
    {profiler : Profiler α} {times : String → Observed → Option Instant}
    (remembers : profiler.Remembers times)
    (level : profiler.key.level = .container)
    (separate : profiler.spec.Separate) {samples : Nat}
    (completed : (profiler.profile settings resolver repository now
      store).samples? = some samples) :
    let next := (profiler.profile settings resolver repository now
      store).profiler
    ∃ pods, resolver.pods profiler.key.target = .ok pods ∧
      let covered := Covers resolver profiler.key.target pods
      ∃ folded : String → Resource → List (PodName × Sample α),
        (∀ container resource,
          ((folded container resource).map Prod.fst).Nodup ∧
          ∀ pod sample, (pod, sample) ∈ folded container resource ↔
            (covered container ∧ pod ∈ pods.map Pod.id ∧
              ∃ source, (source, resource) ∈ profiler.spec.queries ∧
                repository.reading? source resource container pod =
                  some sample) ∧
            times container ⟨pod, resource⟩ ≠ some sample.timestamp) ∧
        (∀ container resource, covered container →
          next.estimator? container resource =
            Estimator.ingestAll profiler.spec.quantiles resource
              ((profiler.estimator? container resource).map
                fun estimator =>
                  estimator.decay (profiler.cycleFactor settings))
              ((folded container resource).map Prod.snd) ∧
          Estimator.counted (next.estimator? container resource) =
            Estimator.counted (profiler.estimator? container resource) +
              UInt64.ofNat (folded container resource).length) ∧
        (∀ container resource, ¬ covered container →
          next.estimator? container resource =
            (profiler.estimator? container resource).map (fun estimator =>
              estimator.decay (profiler.cycleFactor settings)) ∨
          next.estimator? container resource = none ∧
            profiler.Overdue settings now container) ∧
        samples =
          ((containerNames resolver profiler.key.target pods).flatMap
            fun container => profiler.spec.resources.flatMap fun resource =>
              folded container resource).length ∧
        UInt64.ofNat samples =
          ((containerNames resolver profiler.key.target pods).map
            fun container => (profiler.spec.resources.map fun resource =>
              Estimator.counted (next.estimator? container resource) -
                Estimator.counted
                  (profiler.estimator? container resource)).sum).sum := by
  obtain ⟨pods, resolved, -, published, -, counted⟩ :=
    profile_of_samples completed
  have record : profiler.lastFolded? = times := remembers.eq
  have grown (container : String)
      (covered : Covers resolver profiler.key.target pods container)
      (resource : Resource) :=
    counted_of_kept resource
      (kept_of_covers repository settings now level covered)
      fun offer member => by
        obtain ⟨-, -, source, -, shown⟩ :=
          (mem_offersTo_container_iff level).1 member
        exact Repository.isFinite_reading shown
  rw [record] at grown
  rw [published]
  refine ⟨pods, resolved, fun container resource => samplesFor resource
    (taken (times container)
      (profiler.offersTo resolver repository pods container)), ?_, ?_, ?_,
    ?_, ?_⟩
  · intro container resource
    have agree := agree_of_separate resolver repository pods container level
      separate
    refine ⟨nodup_samplesFor_taken fun left leftMember right rightMember
      same => by rw [agree left leftMember right rightMember same],
      fun pod sample => ?_⟩
    rw [mem_samplesFor_iff, mem_taken_iff agree,
      mem_offersTo_container_iff level]
  · intro container resource covered
    refine ⟨?_, grown container covered resource⟩
    rw [← record]
    exact estimator?_of_kept resource
      (kept_of_covers repository settings now level covered)
  · intro container resource uncovered
    refine estimator?_of_idle ?_ resource
    exact List.eq_nil_iff_forall_not_mem.2 fun offer member =>
      uncovered ((mem_offersTo_container_iff level).1 member).1
  · rw [← counted, count_served_containers level, record]
  · rw [← counted, count_served_containers level, record,
      List.length_flatMap, ← sum_map_ofNat]
    refine congrArg List.sum (List.map_congr_left fun container member => ?_)
    rw [List.length_flatMap, ← sum_map_ofNat]
    refine congrArg List.sum (List.map_congr_left fun resource _ => ?_)
    change _ = Estimator.counted ((profiler.advance settings resolver
      repository now pods).estimator? container resource) - _
    rw [grown container (mem_containerNames_iff.1 member) resource,
      UInt64.add_comm, UInt64.add_sub_cancel]

/-!
## A reading that is new beside one that is not

The pod of the example is read through two sources, one for each resource.
Between two cycles only its memory is measured again.
-/

namespace Remeasured

def snapshot (resource : Resource) (seconds : Int) : UsageSnapshot Float :=
  (∅ : UsageSnapshot Float).insert Overlap.pod.id
    ((PodUsage.empty ⟨seconds, 0⟩).insert "app" resource (.value 0))

/-- Processor time is measured at first, and memory at a time. -/
def repository (seconds : Int) : Repository Float :=
  { caches := SortedMap.ofList [
      (.metricsApi, Cache.empty.replace ⟨90, 0⟩ (snapshot .cpu 0)),
      (.prometheus "vms",
        Cache.empty.replace ⟨90, 0⟩ (snapshot .memory seconds))] }

def spec : Spec Float :=
  ⟨none, [⟨.metricsApi, [.cpu]⟩, ⟨.prometheus "vms", [.memory]⟩],
    [.distribution DistributionModel.standard]⟩

def profiler : Profiler Float :=
  .create (.ofSpec (.pods "default" ⟨∅, []⟩) .container spec) spec

def first : Cycle (MemoryStore Float) Float :=
  profiler.profile Overlap.settings Overlap.resolver (repository 0) ⟨100, 0⟩
    ∅

def second : Cycle (MemoryStore Float) Float :=
  first.profiler.profile Overlap.settings Overlap.resolver (repository 60)
    ⟨200, 0⟩ first.store

end Remeasured

/-- Of two readings the second cycle folds the one that is new. -/
theorem repeated_reading_passed_over :
    let before := Remeasured.first.profiler
    let after := Remeasured.second.profiler
    let decayed (resource : Resource) :=
      (before.estimator? "app" resource).map fun estimator =>
        estimator.decay (before.cycleFactor Overlap.settings)
    Remeasured.first.samples? = some 2 ∧
      Remeasured.second.samples? = some 1 ∧
      after.estimator? "app" .cpu =
        Estimator.ingestAll before.spec.quantiles .cpu (decayed .cpu) [] ∧
      after.estimator? "app" .memory =
        Estimator.ingestAll before.spec.quantiles .memory (decayed .memory)
          [⟨⟨60, 0⟩, 0⟩] := by
  intro before after decayed
  have completed : Remeasured.second.samples? = some 1 := by
    decide +kernel
  have separate : before.spec.Separate := by
    unfold Spec.Separate
    decide +kernel
  have key : before.key = Remeasured.profiler.key := by
    decide +kernel
  have target : Overlap.resolver.pods Remeasured.profiler.key.target =
      .ok [Overlap.pod] := by
    decide +kernel
  have remembers : before.Remembers before.lastFolded? := by
    have cycled : before.Remembers _ := .cycle (.create _ _) target rfl
    rwa [← cycled.eq] at cycled
  have queries : before.spec.queries =
      [(.metricsApi, .cpu), (.prometheus "vms", .memory)] := by
    decide +kernel
  have times : ∀ resource ∈ [Resource.cpu, .memory],
      before.lastFolded? "app" ⟨Overlap.pod.id, resource⟩ =
        some ⟨0, 0⟩ := by
    decide +kernel
  have readings :
      (Remeasured.repository 60).reading? .metricsApi .cpu "app"
          Overlap.pod.id = some ⟨⟨0, 0⟩, 0⟩ ∧
        (Remeasured.repository 60).reading? (.prometheus "vms") .memory
          "app" Overlap.pod.id = some ⟨⟨60, 0⟩, 0⟩ :=
    ⟨rfl, rfl⟩
  obtain ⟨pods, resolved, folded, exactly, counted, -⟩ :=
    container_cycle_folds remembers (by rw [key]; rfl) separate completed
  rw [key] at resolved exactly counted
  cases target.symm.trans resolved
  have covered : Covers Overlap.resolver Remeasured.profiler.key.target
      [Overlap.pod] "app" :=
    .inl ⟨Overlap.pod, List.mem_cons_self, List.mem_cons_self⟩
  have repeated : folded "app" .cpu = [] := by
    refine List.eq_nil_iff_forall_not_mem.2 fun ⟨pod, sample⟩ member => ?_
    obtain ⟨⟨-, resolves, source, asked, shown⟩, new⟩ :=
      ((exactly "app" .cpu).2 pod sample).1 member
    obtain rfl := List.mem_singleton.1 resolves
    have served : source = .metricsApi := by
      simpa [queries] using asked
    rw [served, readings.1] at shown
    cases shown
    exact new (times .cpu (by simp))
  have fresh : folded "app" .memory =
      [(Overlap.pod.id, ⟨⟨60, 0⟩, 0⟩)] := by
    obtain ⟨distinct, members⟩ := exactly "app" .memory
    refine List.perm_singleton.1 ((List.perm_ext_iff_of_nodup
      (.of_map _ distinct) (List.nodup_singleton _)).2 ?_)
    rintro ⟨pod, sample⟩
    rw [members, List.mem_singleton]
    constructor
    · rintro ⟨⟨-, resolves, source, asked, shown⟩, -⟩
      obtain rfl := List.mem_singleton.1 resolves
      have served : source = .prometheus "vms" := by
        simpa [queries] using asked
      rw [served, readings.2] at shown
      cases shown
      rfl
    · rintro same
      cases same
      exact ⟨⟨covered, List.mem_cons_self, .prometheus "vms",
        by simp [queries], readings.2⟩,
        by simp [times .memory (by simp)]⟩
  have processor := (counted "app" .cpu covered).1
  have memory := (counted "app" .memory covered).1
  rw [repeated] at processor
  rw [fresh] at memory
  exact ⟨by decide +kernel, completed, processor, memory⟩

/-!
## A resource that is not asked for in between

The spec of a profile drops a resource and asks for it again, while the caches
and the pods stay as they are.
-/

namespace Narrowed

def snapshot : UsageSnapshot Float :=
  (∅ : UsageSnapshot Float).insert Overlap.pod.id
    (((PodUsage.empty ⟨0, 0⟩).insert "app" .cpu (.value 1)).insert "app"
      .memory (.value 2))

def repository : Repository Float :=
  { caches := SortedMap.ofList
      [(.metricsApi, Cache.empty.replace ⟨90, 0⟩ snapshot)] }

def spec (resources : List Resource) : Spec Float :=
  ⟨none, [⟨.metricsApi, resources⟩],
    [.distribution DistributionModel.standard]⟩

def both : Spec Float := spec [.cpu, .memory]

def profiler : Profiler Float :=
  .create (.ofSpec (.pods "default" ⟨∅, []⟩) .container both) both

def first : Cycle (MemoryStore Float) Float :=
  profiler.profile Overlap.settings Overlap.resolver repository ⟨100, 0⟩ ∅

/-- A cycle after the spec has dropped memory and asked for it again. -/
def second : Cycle (MemoryStore Float) Float :=
  ((first.profiler.update (spec [.cpu])).update both).profile
    Overlap.settings Overlap.resolver repository ⟨200, 0⟩ first.store

end Narrowed

/-- A reading that was folded last for its pod and resource is folded again,
though the pod has stayed resolved: the record of a resource ends when the
spec does not ask for it. -/
theorem reading_folded_again :
    Narrowed.both.validate.isOk = true ∧
      (Narrowed.spec [.cpu]).validate.isOk = true ∧
      Narrowed.first.samples? = some 2 ∧
      Narrowed.first.profiler.lastFolded? "app" ⟨Overlap.pod.id, .memory⟩ =
        (Narrowed.repository.reading? .metricsApi .memory "app"
          Overlap.pod.id).map Sample.timestamp ∧
      Narrowed.second.samples? = some 1 ∧
      Estimator.counted (Narrowed.second.profiler.estimator? "app"
        .memory) = 1 := by
  decide +kernel

end Profiler

end UsageForecast
