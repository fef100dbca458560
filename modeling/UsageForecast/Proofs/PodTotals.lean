import Mathlib.Data.List.ReduceOption
import UsageForecast.Proofs.ContainerCycle
import UsageForecast.Proofs.ValidSpec

/-!
# The totals of pods and their failures

A cycle that looks at pods as a whole offers the sum over the containers of a
pod, if each of them has a reading, and reports a pod of which only a part has
readings.  Both depend on the readings of the pod's own containers only.
-/

namespace UsageForecast

/-- All readings are there if none is dropped. -/
theorem eq_map_some_iff {γ : Type} {readings : List (Option γ)}
    {found : List γ} :
    readings = found.map some ↔
      readings.reduceOption = found ∧ found.length = readings.length := by
  constructor
  · rintro rfl
    refine ⟨?_, by rw [List.length_map]⟩
    rw [List.reduceOption, List.filterMap_map]
    exact List.filterMap_some
  · rintro ⟨rfl, complete⟩
    have present := List.reduceOption_length_eq_iff.1 complete
    clear complete
    induction readings with
    | nil => rfl
    | cons reading readings induction =>
        obtain ⟨head, tail⟩ := List.forall_mem_cons.1 present
        obtain ⟨value, rfl⟩ := Option.isSome_iff_exists.1 head
        rw [List.reduceOption_cons_of_some, List.map_cons, ← induction tail]

/-- Of a list only one member contributes. -/
theorem flatMap_eq_of_single {β γ : Type} {members : List β}
    {contribution : β → List γ} {member : β} (distinct : members.Nodup)
    (listed : member ∈ members)
    (others : ∀ other ∈ members, other ≠ member → contribution other = []) :
    members.flatMap contribution = contribution member := by
  obtain ⟨before, after, rfl⟩ := List.append_of_mem listed
  have apart : member ∉ before ∧ member ∉ after := by
    obtain ⟨-, rest, disjoint⟩ := List.nodup_append.1 distinct
    exact ⟨fun earlier => disjoint member earlier member List.mem_cons_self
      rfl, (List.nodup_cons.1 rest).1⟩
  have first : before.flatMap contribution = [] :=
    List.flatMap_eq_nil_iff.2 fun other earlier =>
      others other (List.mem_append_left _ earlier)
        (ne_of_mem_of_not_mem earlier apart.1)
  have last : after.flatMap contribution = [] :=
    List.flatMap_eq_nil_iff.2 fun other later =>
      others other (List.mem_append_right _ (List.mem_cons_of_mem _ later))
        (ne_of_mem_of_not_mem later apart.2)
  rw [List.flatMap_append, List.flatMap_cons, first, last, List.nil_append,
    List.append_nil]

namespace Profiler

variable {α : Type} [Analytic α]

/-- A failure that a cycle at this level meets and goes on from. -/
inductive Fault where
  /-- A source did not answer what a container used. -/
  | unanswered (source : Source) (container : String) (resource : Resource)
      (failure : Failure)
  /-- Only some containers of a pod have readings. -/
  | incomplete (source : Source) (pod : PodName) (resource : Resource)
      (seen expected : Nat)

namespace Fault

def text : Fault → String
  | .unanswered source container resource failure =>
      queryFailure source container resource failure.message
  | .incomplete source pod resource seen expected =>
      queryFailure source pod.display resource
        s!"usage for {seen} of {expected} containers"

/-- Whether a failure is about a resource of a pod. -/
def names (pod : PodName) (resource : Resource) : Fault → Bool
  | .unanswered .. => false
  | .incomplete _ other found _ _ => other = pod ∧ found = resource

end Fault

/-- The readings of the containers of a pod. -/
def podReadings (repository : Repository α) (query : Source × Resource)
    (pod : Pod) : List (Option (Sample α)) :=
  pod.containers.map fun container =>
    repository.reading? query.1 query.2 container pod.id

/-- The failure of a pod of which only a part has readings. -/
def podFaults (repository : Repository α) (query : Source × Resource)
    (pod : Pod) : List Fault :=
  let seen := (podReadings repository query pod).reduceOption.length
  if 0 < seen ∧ seen < pod.containers.length then
    [.incomplete query.1 pod.id query.2 seen pod.containers.length]
  else []

/-- The failures of a query to a source without a snapshot. -/
def unansweredFaults (repository : Repository α) (containers : List String)
    (query : Source × Resource) : List Fault :=
  match repository.snapshot? query.1 with
  | some _ => []
  | none => containers.map fun container =>
      .unanswered query.1 container query.2 (repository.silence query.1)

/-- The failures of one query. -/
def queryFaults (repository : Repository α) (containers : List String)
    (pods : List Pod) (query : Source × Resource) : List Fault :=
  unansweredFaults repository containers query ++
    pods.flatMap (podFaults repository query)

section

variable {repository : Repository α} {quantiles : List (Quantile α)}
  {containers : List String} {pods : List Pod} {pod : Pod}
  {query : Source × Resource} {state : Entry α × Tally}

/-- The containers that a cycle asks about include those of its pods. -/
abbrev Asked (containers : List String) (pods : List Pod) : Prop :=
  ∀ pod ∈ pods, ∀ container ∈ pod.containers, container ∈ containers

theorem samplesOf_resolved (asked : Asked containers pods)
    (resolved : pod ∈ pods) (tally : Tally) :
    samplesOf (askAll repository containers (pods.map Pod.id) query
        tally).1 pod =
      (podReadings repository query pod).reduceOption := by
  rw [samplesOf_askAll tally (List.mem_map.2 ⟨pod, resolved, rfl⟩)
    (asked pod resolved), podReadings, List.reduceOption,
    List.filterMap_map]
  rfl

private theorem length_podReadings :
    (podReadings repository query pod).length = pod.containers.length :=
  List.length_map _

/-- A pod offers its total if each of its containers has a reading. -/
private theorem mem_podOffers_iff {answers : QueryAnswers α}
    (answered : samplesOf answers pod =
      (podReadings repository query pod).reduceOption)
    {offer : Offer α} :
    offer ∈ podOffers answers query.2 pod ↔
      ∃ first rest,
        podReadings repository query pod = (first :: rest).map some ∧
          offer = ⟨⟨pod.id, query.2⟩, total first rest⟩ := by
  have most := List.reduceOption_length_le (podReadings repository query pod)
  simp only [eq_map_some_iff, ← answered, length_podReadings,
    List.length_cons] at most ⊢
  unfold podOffers
  cases found : samplesOf answers pod with
  | nil => simp
  | cons first rest =>
      rw [found, List.length_cons] at most
      simp only [List.cons.injEq]
      split
      next fewer =>
        constructor
        · intro member
          cases member
        · rintro ⟨_, _, ⟨⟨rfl, rfl⟩, complete⟩, -⟩
          omega
      next whole =>
        rw [List.mem_singleton]
        constructor
        · intro same
          exact ⟨first, rest, ⟨⟨rfl, rfl⟩, by omega⟩, same⟩
        · rintro ⟨_, _, ⟨⟨rfl, rfl⟩, -⟩, same⟩
          exact same

/-- The totals that a query offers are those of the pods whose containers all
have readings. -/
theorem mem_totalOffers_iff (asked : Asked containers pods)
    {offer : Offer α} :
    offer ∈ totalOffers repository containers pods query ↔
      ∃ pod ∈ pods, ∃ first rest,
        podReadings repository query pod = (first :: rest).map some ∧
          offer = ⟨⟨pod.id, query.2⟩, total first rest⟩ := by
  rw [totalOffers, List.mem_flatMap]
  refine exists_congr fun pod => and_congr_right fun resolved => ?_
  exact mem_podOffers_iff (samplesOf_resolved asked resolved .zero)

theorem failures_addSample (tally : Tally) (folded : Bool) :
    (tally.addSample folded).failures = tally.failures := by
  cases folded <;> rfl

/-- A pod is reported if only a part of it has readings. -/
private theorem failures_observePod {answers : QueryAnswers α}
    (answered : samplesOf answers pod =
      (podReadings repository query pod).reduceOption) :
    (observePod quantiles answers query state pod).2.failures =
      state.2.failures ++
        (podFaults repository query pod).map Fault.text := by
  unfold observePod podFaults
  rw [answered]
  cases (podReadings repository query pod).reduceOption with
  | nil => simp
  | cons first rest =>
      by_cases fewer : rest.length + 1 < pod.containers.length
      · simp [fewer, Tally.fail, Fault.text]
      · simp [fewer, failures_addSample]

private theorem failures_askAll (tally : Tally) (names : List PodName) :
    (askAll repository containers names query tally).2.failures =
      tally.failures ++
        (unansweredFaults repository containers query).map Fault.text := by
  rw [askAll_eq_foldl, unansweredFaults]
  generalize (∅ : QueryAnswers α) = answers
  cases shown : repository.snapshot? query.1 with
  | none =>
      induction containers generalizing answers tally with
      | nil => simp
      | cons container containers induction =>
          rw [List.foldl_cons, askOne, Repository.usage_of_silent shown,
            induction]
          simp [Tally.fail, Fault.text]
  | some snapshot =>
      induction containers generalizing answers tally with
      | nil => simp
      | cons container containers induction =>
          obtain ⟨answer, answered, -⟩ :=
            Repository.usage_of_snapshot shown query.2 container names
          rw [List.foldl_cons, askOne, answered]
          exact induction _ _

/-- A loop reports what its steps report. -/
theorem failures_foldl {ι β : Type} {state : ι × Tally} {members : List β}
    {step : ι × Tally → β → ι × Tally} {faults : β → List Fault}
    (each : ∀ member ∈ members, ∀ state,
      (step state member).2.failures =
        state.2.failures ++ (faults member).map Fault.text) :
    (members.foldl step state).2.failures =
      state.2.failures ++ (members.flatMap faults).map Fault.text := by
  induction members generalizing state with
  | nil => simp
  | cons member members induction =>
      obtain ⟨head, tail⟩ := List.forall_mem_cons.1 each
      rw [List.foldl_cons, induction tail, head, List.flatMap_cons,
        List.map_append, List.append_assoc]

/-- The failures of one query are added to the report. -/
private theorem failures_observePods (asked : Asked containers pods) :
    (observePods repository quantiles containers pods state
        query).2.failures =
      state.2.failures ++
        (queryFaults repository containers pods query).map Fault.text := by
  obtain ⟨entry, tally⟩ := state
  unfold observePods queryFaults
  rw [List.map_append, ← List.append_assoc, ← failures_askAll tally
    (pods.map Pod.id)]
  exact failures_foldl fun pod resolved state =>
    failures_observePod (samplesOf_resolved asked resolved tally)

/-- What a cycle reports that looks at pods as a whole, before it saves. -/
theorem failures_tally_pod {settings : Settings α} {resolver : Resolver}
    {now : Instant} {profiler : Profiler α}
    (level : profiler.key.level = .pod) :
    (profiler.tally settings resolver repository now pods).failures =
      (profiler.spec.queries.flatMap (queryFaults repository
        (containerNames resolver profiler.key.target pods) pods)).map
          Fault.text := by
  have asked : Asked (containerNames resolver profiler.key.target pods)
      pods := fun pod resolved container listed =>
    mem_containerNames_iff.2 (.inl ⟨pod, resolved, listed⟩)
  have each (query : Source × Resource) (state : Entry α × Tally) :
      (observePods repository profiler.spec.quantiles
          (containerNames resolver profiler.key.target pods) pods state
          query).2.failures =
        state.2.failures ++ (queryFaults repository
          (containerNames resolver profiler.key.target pods) pods
          query).map Fault.text :=
    failures_observePods asked
  unfold tally observe observeWhole
  rw [level]
  exact (failures_foldl fun query _ state => each query state).trans
    (List.nil_append _)

/-- Exactly one failure names a pod of which a part has readings, and none
names another pod. -/
theorem faults_naming {queries : List (Source × Resource)}
    (distinct : (queries.map Prod.snd).Nodup)
    (identified : (pods.map Pod.id).Nodup) (asked : query ∈ queries)
    (resolved : pod ∈ pods) :
    (queries.flatMap (queryFaults repository containers pods)).filter
        (Fault.names pod.id query.2) =
      podFaults repository query pod := by
  have naming (other : Source × Resource) (member : Pod) :
      (podFaults repository other member).filter
          (Fault.names pod.id query.2) =
        if member.id = pod.id ∧ other.2 = query.2 then
          podFaults repository other member
        else [] := by
    unfold podFaults
    dsimp only
    split
    · simp [List.filter_cons, Fault.names]
    · simp
  have unanswering (other : Source × Resource) :
      (unansweredFaults repository containers other).filter
        (Fault.names pod.id query.2) = [] := by
    unfold unansweredFaults
    split
    · rfl
    · simp [Fault.names]
  rw [List.filter_flatMap, flatMap_eq_of_single (List.Nodup.of_map _ distinct)
    asked]
  · rw [queryFaults, List.filter_append, unanswering, List.nil_append,
      List.filter_flatMap, flatMap_eq_of_single
        (List.Nodup.of_map _ identified) resolved]
    · rw [naming, if_pos ⟨rfl, rfl⟩]
    · intro other listed different
      rw [naming, if_neg]
      exact fun same => different
        (List.inj_on_of_nodup_map identified listed resolved same.1)
  · intro other listed different
    rw [queryFaults, List.filter_append, unanswering, List.nil_append,
      List.filter_flatMap, List.flatMap_eq_nil_iff]
    intro member _
    rw [naming, if_neg]
    exact fun same => different
      (List.inj_on_of_nodup_map distinct listed asked same.2)

end

section

variable {resolver : Resolver} {repository : Repository α}
  {pods : List Pod} {profiler : Profiler α}

theorem offersFor_pod (level : profiler.key.level = .pod) :
    profiler.offersFor resolver repository pods =
      [(podEntry, profiler.spec.queries.flatMap (totalOffers repository
        (containerNames resolver profiler.key.target pods) pods))] := by
  rw [offersFor, offers, level]

variable (repository) in
private theorem mem_offersFor_pod (level : profiler.key.level = .pod) :
    (podEntry, profiler.spec.queries.flatMap (totalOffers repository
        (containerNames resolver profiler.key.target pods) pods)) ∈
      profiler.offersFor resolver repository pods := by
  rw [offersFor_pod level]
  exact List.mem_singleton_self _

variable (resolver repository) in
/-- The entry of the pods outlives a cycle that finds a pod. -/
theorem kept_of_pods (settings : Settings α) (now : Instant)
    (level : profiler.key.level = .pod) (inhabited : pods ≠ []) :
    (profiler.advance settings resolver repository now
      pods).entries.contains podEntry := by
  have seen : profiler.refreshes pods = true := by
    simpa [refreshes, level] using inhabited
  exact SortedMap.contains_iff.2
    ⟨_, find?_advance_of_mem (mem_offersFor_pod repository level) seen⟩

/-- At this level a cycle offers something to the entry of the pods only, if
there are any. -/
theorem offersTo_of_idle (level : profiler.key.level = .pod) {name : String}
    (idle : name ≠ podEntry ∨ pods = []) :
    profiler.offersTo resolver repository pods name = [] := by
  rcases idle with other | rfl
  · refine offersTo_of_not_mem ?_
    rw [offersFor_pod level]
    simpa using other
  · refine offersTo_of_unseen ?_
    rw [refreshes, level]
    rfl

/-- The offers to the entry of the pods are the totals of the pods whose
containers all have readings. -/
theorem mem_offersTo_pod_iff (level : profiler.key.level = .pod)
    {offer : Offer α} :
    offer ∈ profiler.offersTo resolver repository pods podEntry ↔
      ∃ query ∈ profiler.spec.queries, ∃ pod ∈ pods, ∃ first rest,
        podReadings repository query pod = (first :: rest).map some ∧
          offer = ⟨⟨pod.id, query.2⟩, total first rest⟩ := by
  rw [offersTo_of_mem (mem_offersFor_pod repository level),
    List.mem_flatMap]
  refine exists_congr fun query => and_congr_right fun _ => ?_
  exact mem_totalOffers_iff fun pod resolved container listed =>
    mem_containerNames_iff.2 (.inl ⟨pod, resolved, listed⟩)

variable (resolver repository) in
/-- If pods and resources are listed once, a slot is offered one sample. -/
theorem agree_of_distinct (level : profiler.key.level = .pod)
    (distinct : (profiler.spec.queries.map Prod.snd).Nodup)
    (identified : (pods.map Pod.id).Nodup) :
    ∀ left ∈ profiler.offersTo resolver repository pods podEntry,
      ∀ right ∈ profiler.offersTo resolver repository pods podEntry,
        left.observed = right.observed → left = right := by
  intro left leftMember right rightMember same
  obtain ⟨query, asked, pod, resolved, first, rest, read, rfl⟩ :=
    (mem_offersTo_pod_iff level).1 leftMember
  obtain ⟨other, otherAsked, member, otherResolved, head, tail, otherRead,
    rfl⟩ := (mem_offersTo_pod_iff level).1 rightMember
  obtain ⟨names, resources⟩ := Observed.mk.inj same
  obtain rfl :=
    List.inj_on_of_nodup_map distinct asked otherAsked resources
  obtain rfl :=
    List.inj_on_of_nodup_map identified resolved otherResolved names
  rw [read] at otherRead
  obtain ⟨rfl, rfl⟩ := List.cons.inj <|
    List.map_injective_iff.2 (Option.some_injective _) otherRead
  rfl

/-- The samples that a cycle folds are counted resource by resource. -/
theorem count_served_pods {settings : Settings α} {now : Instant}
    (level : profiler.key.level = .pod) :
    (profiler.served settings resolver repository now pods).2 =
      (profiler.spec.resources.flatMap fun resource =>
        samplesFor resource (taken (profiler.lastFolded? podEntry)
          (profiler.offersTo resolver repository pods podEntry))).length := by
  have distinct : profiler.spec.resources.Nodup := sortDistinct_nodup _
  rw [length_flatMap_samplesFor distinct, count_served settings now,
    offersTo_of_mem (mem_offersFor_pod repository level),
    offersFor_pod level, List.flatMap_singleton]
  intro offer folded
  obtain ⟨query, asked, pod, -, first, rest, -, rfl⟩ :=
    (mem_offersTo_pod_iff level).1 (taken_subset folded)
  exact List.contains_iff_mem.1 (Spec.asksFor_iff.2 ⟨query.1, asked⟩)

end

end Profiler

theorem Resolver.nodup_select {cluster : Cluster}
    (identified : (cluster.pods.map Pod.id).Nodup) (scope : String)
    (selector : Selector) :
    ((select cluster scope selector).map Pod.id).Nodup := by
  have sorted : (select cluster scope selector).Perm
      (cluster.pods.filter (covers scope selector)) :=
    List.mergeSort_perm _ _
  rw [(sorted.map Pod.id).nodup_iff]
  exact identified.sublist (List.filter_sublist.map _)

/-- The pods that are resolved are different ones, if those of the cluster
are. -/
theorem Resolver.nodup_pods {resolver : Resolver} {target : Target}
    {pods : List Pod} (resolved : resolver.pods target = .ok pods)
    (identified : ∀ cluster, resolver.cluster = .ok cluster →
      (cluster.pods.map Pod.id).Nodup) : (pods.map Pod.id).Nodup := by
  obtain ⟨cluster, known, selected⟩ := bind_eq_ok_iff.1 resolved
  have distinct := nodup_select (identified cluster known)
  cases target with
  | pods scope selector =>
      obtain rfl := Except.ok.inj selected
      exact distinct scope selector
  | workload workload =>
      obtain ⟨controller, -, selected⟩ := bind_eq_ok_iff.1 selected
      cases owned : controller.selector with
      | none =>
          rw [owned] at selected
          obtain rfl := Except.ok.inj selected
          exact List.nodup_nil
      | some selector =>
          rw [owned] at selected
          obtain rfl := Except.ok.inj selected
          exact distinct workload.scope selector

end UsageForecast
