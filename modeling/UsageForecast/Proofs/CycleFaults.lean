import UsageForecast.Proofs.PodTotals

/-!
# The failures that a cycle reports

Before it saves, a cycle reports the queries to sources without a snapshot
and, if it looks at pods as a whole, the pods of which only a part has
readings.
-/

namespace UsageForecast.Profiler

variable {α : Type} [Analytic α] {repository : Repository α}
  {resolver : Resolver} {pods : List Pod} {profiler : Profiler α}

/-- The failures of the queries of a profile. -/
def faults (resolver : Resolver) (repository : Repository α)
    (pods : List Pod) (profiler : Profiler α) : List Fault :=
  let containers := containerNames resolver profiler.key.target pods
  match profiler.key.level with
  | .container => containers.flatMap fun container =>
      profiler.spec.queries.flatMap (unansweredFaults repository [container])
  | .pod =>
      profiler.spec.queries.flatMap (queryFaults repository containers pods)

section

variable {quantiles : List (Quantile α)} {state : Entry α × Tally}

/-- Folding samples reports nothing. -/
private theorem failures_foldSamples {resource : Resource}
    {samples : List (PodName × Sample α)} {entry : Entry α} {tally : Tally} :
    (foldSamples quantiles resource samples entry tally).2.failures =
      tally.failures := by
  unfold foldSamples
  induction samples generalizing entry tally with
  | nil => rfl
  | cons sample samples induction =>
      rw [List.foldl_cons]
      exact induction.trans (failures_addSample tally _)

private theorem failures_observeContainer (key : ProfileKey)
    (names : List PodName) (container : String)
    (query : Source × Resource) :
    (observeContainer repository key quantiles names container state
        query).2.failures =
      state.2.failures ++
        (unansweredFaults repository [container] query).map Fault.text := by
  obtain ⟨entry, tally⟩ := state
  obtain ⟨source, resource⟩ := query
  cases shown : repository.snapshot? source with
  | none =>
      simp [observeContainer, unansweredFaults, shown,
        Repository.usage_of_silent shown, Tally.fail, Fault.text]
  | some snapshot =>
      obtain ⟨answer, answered, -⟩ :=
        Repository.usage_of_snapshot shown resource container names
      simp [observeContainer, unansweredFaults, shown, answered,
        failures_foldSamples, Tally.addMalformed]

end

/-- What a cycle reports that looks at containers, before it saves. -/
private theorem failures_tally_container {settings : Settings α}
    {now : Instant} (level : profiler.key.level = .container) :
    (profiler.tally settings resolver repository now pods).failures =
      ((containerNames resolver profiler.key.target pods).flatMap
        fun container => profiler.spec.queries.flatMap
          (unansweredFaults repository [container])).map Fault.text := by
  unfold tally observe observeContainers
  rw [level]
  refine (failures_foldl fun container _ state => ?_).trans
    (List.nil_append _)
  exact failures_foldl fun query _ state =>
    failures_observeContainer _ _ container query

/-- What a cycle reports before it saves. -/
theorem failures_tally (settings : Settings α) (resolver : Resolver)
    (repository : Repository α) (now : Instant) (pods : List Pod)
    (profiler : Profiler α) :
    (profiler.tally settings resolver repository now pods).failures =
      (profiler.faults resolver repository pods).map Fault.text := by
  unfold faults
  cases level : profiler.key.level with
  | container => exact failures_tally_container level
  | pod => exact failures_tally_pod level

/-- A query is reported as unanswered if its source has no snapshot. -/
theorem unanswered_of_faults {source : Source} {container : String}
    {resource : Resource} {failure : Failure}
    (reported : .unanswered source container resource failure ∈
      profiler.faults resolver repository pods) :
    (source, resource) ∈ profiler.spec.queries ∧
      repository.snapshot? source = none ∧
        failure = repository.silence source := by
  have silent {containers : List String} {query : Source × Resource}
      (asked : query ∈ profiler.spec.queries)
      (listed : .unanswered source container resource failure ∈
        unansweredFaults repository containers query) :
      (source, resource) ∈ profiler.spec.queries ∧
        repository.snapshot? source = none ∧
          failure = repository.silence source := by
    unfold unansweredFaults at listed
    cases shown : repository.snapshot? query.1 with
    | none =>
        rw [shown] at listed
        obtain ⟨_, -, same⟩ := List.mem_map.1 listed
        obtain ⟨rfl, rfl, rfl, rfl⟩ := Fault.unanswered.inj same
        exact ⟨asked, shown, rfl⟩
    | some snapshot =>
        rw [shown] at listed
        cases listed
  unfold faults at reported
  cases level : profiler.key.level with
  | container =>
      rw [level] at reported
      obtain ⟨_, -, reported⟩ := List.mem_flatMap.1 reported
      obtain ⟨query, asked, listed⟩ := List.mem_flatMap.1 reported
      exact silent asked listed
  | pod =>
      rw [level] at reported
      obtain ⟨query, asked, listed⟩ := List.mem_flatMap.1 reported
      rcases List.mem_append.1 listed with listed | listed
      · exact silent asked listed
      · obtain ⟨pod, -, partly⟩ := List.mem_flatMap.1 listed
        dsimp only [podFaults] at partly
        split at partly
        · cases List.mem_singleton.1 partly
        · cases partly

end UsageForecast.Profiler
