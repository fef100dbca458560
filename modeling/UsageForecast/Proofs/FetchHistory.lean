import UsageForecast.Proofs.CacheHistory
import UsageForecast.Proofs.QuantityGrammar
import UsageForecast.Proofs.Readings
import UsageForecast.Proofs.RepeatedCycles

/-!
# Queries after a history of fetches

A repository answers for a source from the last success among the fetches from
this source.  Failed fetches and fetches from other sources do not count, and
neither does the order in which those of different sources came.
-/

namespace UsageForecast

section

variable {σ : Type}

/-- The last success among some outcomes. -/
def lastGood? (outcomes : List (Except String σ)) : Option σ :=
  outcomes.reverse.findSome? Except.toOption

theorem lastGood?_concat (outcomes : List (Except String σ))
    (outcome : Except String σ) :
    lastGood? (outcomes ++ [outcome]) =
      outcome.toOption.or (lastGood? outcomes) := by
  rw [lastGood?, List.reverse_concat, List.findSome?_cons]
  cases outcome <;> rfl

theorem lastGood?_eq_none_iff {outcomes : List (Except String σ)} :
    lastGood? outcomes = none ↔
      ∀ outcome ∈ outcomes, outcome.isOk = false := by
  rw [lastGood?, List.findSome?_eq_none_iff]
  refine forall_congr' fun outcome => ?_
  rw [List.mem_reverse]
  cases outcome <;> simp [Except.toOption, Except.isOk, Except.toBool]

theorem isSome_lastGood?_iff {outcomes : List (Except String σ)} :
    (lastGood? outcomes).isSome = true ↔
      ∃ outcome ∈ outcomes, outcome.isOk = true := by
  rw [Option.isSome_iff_ne_none, ne_eq, lastGood?_eq_none_iff]
  simp

/-- A cache serves the last success among the outcomes that it was given, and
tells of all of them. -/
structure Cache.Holds (cache : Cache σ) (outcomes : List (Except String σ)) :
    Prop extends cache.Reflects outcomes where
  snapshot : cache.snapshot = lastGood? outcomes

theorem Cache.holds_empty : (Cache.empty : Cache σ).Holds [] where
  toReflects := reflects_empty
  snapshot := rfl

theorem Cache.Holds.taken {cache : Cache σ}
    {outcomes : List (Except String σ)} (holds : cache.Holds outcomes)
    (now : Instant) (outcome : Option (Except String σ)) :
    (cache.taken now outcome).Holds (outcomes ++ outcome.toList) where
  toReflects := holds.toReflects.taken now outcome
  snapshot := by
    cases outcome with
    | none =>
        rw [Option.toList_none, List.append_nil]
        exact holds.snapshot
    | some outcome =>
        rw [Option.toList_some, lastGood?_concat, ← holds.snapshot]
        cases outcome <;> rfl

end

/-- What came of a fetch from a source at a time. -/
structure Fetch (α : Type) where
  now : Instant
  source : Source
  outcome : Except String (UsageSnapshot α)

/-- What came of the fetches from one source, in their order. -/
def outcomesOf {α : Type} (source : Source) (fetches : List (Fetch α)) :
    List (Except String (UsageSnapshot α)) :=
  (fetches.filter fun fetch => fetch.source = source).map Fetch.outcome

theorem outcomesOf_concat {α : Type} (source : Source)
    (fetches : List (Fetch α)) (fetch : Fetch α) :
    outcomesOf source (fetches ++ [fetch]) =
      outcomesOf source fetches ++
        (if source = fetch.source then some fetch.outcome
          else none).toList := by
  by_cases same : source = fetch.source
  · simp [outcomesOf, same]
  · simp [outcomesOf, same, Ne.symm same]

/-- A failure, or a fetch from another source, leaves the last success. -/
theorem lastGood?_outcomesOf_concat {α : Type} {source : Source}
    {fetch : Fetch α}
    (idle : fetch.outcome.isOk = false ∨ fetch.source ≠ source)
    (fetches : List (Fetch α)) :
    lastGood? (outcomesOf source (fetches ++ [fetch])) =
      lastGood? (outcomesOf source fetches) := by
  rw [outcomesOf_concat]
  by_cases same : source = fetch.source
  · rw [if_pos same, Option.toList_some, lastGood?_concat]
    cases failed : fetch.outcome with
    | error error => rfl
    | ok snapshot =>
        rw [failed] at idle
        exact absurd same.symm (idle.resolve_left Bool.noConfusion)
  · rw [if_neg same, Option.toList_none, List.append_nil]

namespace Repository

section

variable {α : Type}

/-- Take over what came of some fetches, one after another. -/
def takeOver (repository : Repository α) (fetches : List (Fetch α)) :
    Repository α :=
  fetches.foldl
    (fun repository fetch =>
      (repository.refresh fetch.now fetch.source fetch.outcome).1)
    repository

/-- The caches are those of some sources, and each holds what came of the
fetches from its source. -/
structure Remembers (repository : Repository α) (sources : List Source)
    (fetches : List (Fetch α)) : Prop where
  configured : ∀ source, source ∈ sources ↔
    (repository.caches.find? source).isSome = true
  held : ∀ source cache, repository.caches.find? source = some cache →
    cache.Holds (outcomesOf source fetches)

theorem remembers_ofSources (sources : List Source) :
    (ofSources sources : Repository α).Remembers sources [] where
  configured := fun source => isSome_find?_ofSources.symm
  held := by
    intro source cache found
    obtain ⟨other, -, same⟩ :=
      List.mem_map.1 (SortedMap.mem_of_find?_ofList found)
    obtain rfl := (Prod.mk.inj same).2
    exact Cache.holds_empty

theorem Remembers.refresh {repository : Repository α}
    {sources : List Source} {fetches : List (Fetch α)}
    (remembers : repository.Remembers sources fetches) (fetch : Fetch α) :
    (repository.refresh fetch.now fetch.source fetch.outcome).1.Remembers
      sources (fetches ++ [fetch]) where
  configured := by
    intro source
    rw [find?_refresh, Option.isSome_map]
    exact remembers.configured source
  held := by
    intro source cache found
    rw [find?_refresh] at found
    obtain ⟨earlier, known, rfl⟩ := Option.map_eq_some_iff.1 found
    rw [outcomesOf_concat]
    exact (remembers.held source earlier known).taken _ _

theorem Remembers.takeOver {repository : Repository α}
    {sources : List Source} {earlier : List (Fetch α)}
    (remembers : repository.Remembers sources earlier)
    (fetches : List (Fetch α)) :
    (repository.takeOver fetches).Remembers sources
      (earlier ++ fetches) := by
  induction fetches generalizing repository earlier with
  | nil =>
      rw [List.append_nil]
      exact remembers
  | cons fetch fetches induction =>
      rw [List.append_cons]
      exact induction (remembers.refresh fetch)

theorem remembers_takeOver (sources : List Source)
    (fetches : List (Fetch α)) :
    ((ofSources sources).takeOver fetches).Remembers sources fetches :=
  (remembers_ofSources sources).takeOver fetches

/-- What a repository answers for a source depends on its cached snapshot. -/
theorem usage_congr [Scalar α] {left right : Repository α} {source : Source}
    (same : (left.caches.find? source).map Cache.snapshot =
      (right.caches.find? source).map Cache.snapshot)
    (resource : Resource) (container : String) (pods : List PodName) :
    left.usage source resource container pods =
      right.usage source resource container pods := by
  unfold usage Repository.cache
  cases known : left.caches.find? source with
  | none =>
      rw [known] at same
      rw [Option.map_eq_none_iff.1 same.symm]
  | some cache =>
      rw [known] at same
      obtain ⟨other, found, equal⟩ := Option.map_eq_some_iff.1 same.symm
      rw [found]
      simp only [bind, Except.bind, equal]

/-- What is cached for a source is the last success among the fetches from
it. -/
theorem Remembers.map_snapshot {repository : Repository α}
    {sources : List Source} {fetches : List (Fetch α)}
    (remembers : repository.Remembers sources fetches) (source : Source) :
    (repository.caches.find? source).map Cache.snapshot =
      if source ∈ sources then some (lastGood? (outcomesOf source fetches))
      else none := by
  cases found : repository.caches.find? source with
  | none =>
      have unknown : source ∉ sources := by
        rw [remembers.configured, found]
        simp
      rw [if_neg unknown, Option.map_none]
  | some cache =>
      have known : source ∈ sources := by
        rw [remembers.configured, found]
        rfl
      rw [if_pos known, Option.map_some,
        (remembers.held source cache found).snapshot]

theorem snapshot?_eq_join (repository : Repository α) (source : Source) :
    repository.snapshot? source =
      ((repository.caches.find? source).map Cache.snapshot).join := by
  unfold Repository.snapshot?
  cases repository.caches.find? source <;> rfl

theorem Remembers.snapshot? {repository : Repository α}
    {sources : List Source} {fetches : List (Fetch α)}
    (remembers : repository.Remembers sources fetches) (source : Source) :
    repository.snapshot? source =
      if source ∈ sources then lastGood? (outcomesOf source fetches)
      else none := by
  rw [snapshot?_eq_join, remembers.map_snapshot]
  split <;> rfl

/-- The status of a source tells of the fetches from it. -/
theorem Remembers.status {repository : Repository α}
    {sources : List Source} {fetches : List (Fetch α)}
    (remembers : repository.Remembers sources fetches) {source : Source}
    {status : Cache.Status}
    (listed : (source, status) ∈ repository.statuses) :
    (status.synced = true ↔
        ∃ outcome ∈ outcomesOf source fetches, outcome.isOk = true) ∧
      (failuresSince (outcomesOf source fetches) < UInt32.size →
        status.consecutiveFailures.toNat =
          failuresSince (outcomesOf source fetches)) := by
  obtain ⟨⟨other, cache⟩, member, same⟩ := List.mem_map.1 listed
  obtain ⟨rfl, rfl⟩ := Prod.mk.inj same
  have holds := remembers.held other cache
    (SortedMap.find?_eq_some_iff.2 member)
  constructor
  · change cache.snapshot.isSome = true ↔ _
    rw [holds.snapshot, isSome_lastGood?_iff]
  · intro counted
    change cache.consecutiveFailures.toNat = _
    rw [holds.failures, UInt32.toNat_ofNat', Nat.mod_eq_of_lt counted]

/-- A source has one status if it is configured, and none otherwise. -/
theorem Remembers.statuses {repository : Repository α}
    {sources : List Source} {fetches : List (Fetch α)}
    (remembers : repository.Remembers sources fetches) (source : Source) :
    (repository.statuses.map Prod.fst).count source =
      if source ∈ sources then 1 else 0 := by
  have listed : repository.statuses.map Prod.fst =
      repository.caches.keys := by
    simp [Repository.statuses, SortedMap.keys]
  rw [listed, repository.caches.keys_nodup.count]
  simp only [SortedMap.mem_keys_iff, remembers.configured]

end

section

variable {α : Type} [Scalar α]

/-- A query is answered iff its source has a snapshot. -/
theorem usage_cases (repository : Repository α) (source : Source)
    (resource : Resource) (container : String) (pods : List PodName) :
    (repository.snapshot? source = none ∧
      ∃ reason, repository.usage source resource container pods =
        .error (.unavailable reason)) ∨
    ∃ snapshot answer, repository.snapshot? source = some snapshot ∧
      repository.usage source resource container pods = .ok answer ∧
      ∀ pod, answer.samples.find? pod =
        if pod ∈ pods then
          UsageSnapshot.reading? snapshot resource container pod
        else none := by
  cases shown : repository.snapshot? source with
  | none =>
      have silent := usage_of_silent shown resource container pods
      rw [silence_eq] at silent
      exact .inl ⟨rfl, _, silent⟩
  | some snapshot =>
      obtain ⟨answer, answered, samples⟩ :=
        usage_of_snapshot shown resource container pods
      refine .inr ⟨snapshot, answer, rfl, answered, fun pod => ?_⟩
      rw [samples, reading?, shown, Option.bind_some]

end

end Repository

/-- A reading is a finite number that is not negative, at the time of its
pod. -/
theorem UsageSnapshot.admitted_of_reading {α : Type} [Scalar α]
    [SignedScalar α] {snapshot : UsageSnapshot α} {resource : Resource}
    {container : String} {pod : PodName} {sample : Sample α}
    (shown : UsageSnapshot.reading? snapshot resource container pod =
      some sample) :
    Scalar.isFinite sample.value = true ∧ 0 ≤ sample.value ∧
      ∃ usage, SortedMap.find? snapshot pod = some usage ∧
        sample.timestamp = usage.timestamp := by
  obtain ⟨measurement, read⟩ := UsageSnapshot.read_of_reading shown
  obtain ⟨usage, listed, shown⟩ := Option.bind_eq_some_iff.1 shown
  obtain ⟨_, -, shown⟩ := Option.bind_eq_some_iff.1 shown
  obtain ⟨_, -, same⟩ := Option.bind_eq_some_iff.1 shown
  obtain rfl := Option.some.inj same
  exact ⟨Measurement.isFinite_of_read read, Measurement.nonneg_of_read read,
    usage, listed, rfl⟩

namespace Repository

section

variable {α : Type} [Scalar α]

/-- Histories that end in the same success give the same answers. -/
theorem usage_takeOver_congr (sources : List Source) {source : Source}
    {left right : List (Fetch α)}
    (same : lastGood? (outcomesOf source left) =
      lastGood? (outcomesOf source right))
    (resource : Resource) (container : String) (pods : List PodName) :
    ((ofSources sources).takeOver left).usage source resource container
        pods =
      ((ofSources sources).takeOver right).usage source resource container
        pods := by
  refine usage_congr ?_ resource container pods
  rw [(remembers_takeOver sources left).map_snapshot,
    (remembers_takeOver sources right).map_snapshot, same]

/-- A query fails iff its source is unknown or was never fetched well. -/
theorem usage_takeOver_eq_error_iff (sources : List Source)
    (fetches : List (Fetch α)) (source : Source) (resource : Resource)
    (container : String) (pods : List PodName) :
    (∃ reason, ((ofSources sources).takeOver fetches).usage source resource
        container pods = .error (.unavailable reason)) ↔
      source ∉ sources ∨
        ∀ outcome ∈ outcomesOf source fetches, outcome.isOk = false := by
  rw [← lastGood?_eq_none_iff]
  have shown := (remembers_takeOver sources fetches).snapshot? source
  rcases usage_cases ((ofSources sources).takeOver fetches) source resource
      container pods with
    ⟨silent, reason, failed⟩ | ⟨snapshot, answer, found, answered, -⟩
  · refine iff_of_true ⟨reason, failed⟩ ?_
    by_cases known : source ∈ sources
    · rw [shown, if_pos known] at silent
      exact .inr silent
    · exact .inl known
  · refine iff_of_false ?_ ?_
    · rintro ⟨reason, failed⟩
      rw [answered] at failed
      cases failed
    · rw [shown] at found
      split at found
      next known =>
        rw [found]
        simpa using known
      · cases found

/-- What is answered are the readings of the last success. -/
theorem readings_of_usage_takeOver {sources : List Source}
    {fetches : List (Fetch α)} {source : Source} {resource : Resource}
    {container : String} {pods : List PodName} {answer : UsageAnswer α}
    (answered : ((ofSources sources).takeOver fetches).usage source resource
      container pods = .ok answer) :
    ∃ snapshot, lastGood? (outcomesOf source fetches) = some snapshot ∧
      ∀ pod, answer.samples.find? pod =
        if pod ∈ pods then
          UsageSnapshot.reading? snapshot resource container pod
        else none := by
  have shown := (remembers_takeOver sources fetches).snapshot? source
  rcases usage_cases ((ofSources sources).takeOver fetches) source resource
      container pods with
    ⟨-, reason, failed⟩ | ⟨snapshot, other, found, same, readings⟩
  · rw [answered] at failed
    cases failed
  · rw [answered] at same
    cases same
    rw [shown] at found
    split at found
    · exact ⟨snapshot, found, readings⟩
    · cases found

/-- After any fetches, what a repository answers for a source is determined
by the last success among the fetches from it, and the status of the source
tells of these fetches. -/
theorem answers_from_last_success [SignedScalar α] (sources : List Source)
    (fetches : List (Fetch α)) (source : Source) (resource : Resource)
    (container : String) (pods : List PodName) :
    let outcomes := outcomesOf source fetches
    let repository := (ofSources sources : Repository α).takeOver fetches
    let answer := repository.usage source resource container pods
    (∀ others : List (Fetch α),
      lastGood? (outcomesOf source others) = lastGood? outcomes →
      ((ofSources sources).takeOver others).usage source resource container
        pods = answer) ∧
    (∀ fetch : Fetch α,
      fetch.outcome.isOk = false ∨ fetch.source ≠ source →
      ((ofSources sources).takeOver (fetches ++ [fetch])).usage source
        resource container pods = answer) ∧
    ((∃ reason, answer = .error (.unavailable reason)) ↔
      source ∉ sources ∨ ∀ outcome ∈ outcomes, outcome.isOk = false) ∧
    ((∃ reason, answer = .error (.unavailable reason)) ∨
      ∃ found snapshot, answer = .ok found ∧
        lastGood? outcomes = some snapshot ∧
        found.samples.keys.Nodup ∧
        ∀ pod,
          found.samples.find? pod =
            (if pod ∈ pods then
              UsageSnapshot.reading? snapshot resource container pod
            else none) ∧
          ∀ sample, found.samples.find? pod = some sample →
            Scalar.isFinite sample.value = true ∧ 0 ≤ sample.value ∧
            ∃ usage, SortedMap.find? snapshot pod = some usage ∧
              sample.timestamp = usage.timestamp) ∧
    (repository.statuses.map Prod.fst).count source =
      (if source ∈ sources then 1 else 0) ∧
    ∀ status, (source, status) ∈ repository.statuses →
      (status.synced = true ↔
        ∃ outcome ∈ outcomes, outcome.isOk = true) ∧
      (failuresSince outcomes < UInt32.size →
        status.consecutiveFailures.toNat = failuresSince outcomes) := by
  have remembers := remembers_takeOver sources fetches
  refine ⟨fun others same => usage_takeOver_congr sources same _ _ _,
    fun fetch idle => usage_takeOver_congr sources
      (lastGood?_outcomesOf_concat idle fetches) _ _ _,
    usage_takeOver_eq_error_iff sources fetches source resource container
      pods,
    ?_, remembers.statuses source, fun status => remembers.status⟩
  rcases usage_cases ((ofSources sources).takeOver fetches) source resource
      container pods with
    ⟨-, reason, failed⟩ | ⟨-, found, -, answered, -⟩
  · exact .inl ⟨reason, failed⟩
  · obtain ⟨snapshot, last, readings⟩ := readings_of_usage_takeOver answered
    refine .inr ⟨found, snapshot, answered, last, found.samples.keys_nodup,
      fun pod => ⟨readings pod, fun sample shown => ?_⟩⟩
    rw [readings] at shown
    split at shown
    · exact UsageSnapshot.admitted_of_reading shown
    · cases shown

/-- One core of the pod, seen through the metrics API at its first fetch; the
second one failed, and another source was fetched in between. -/
theorem outage_keeps_answer :
    let sources := [.prometheus "vms", .metricsApi]
    let first : Fetch Float :=
      ⟨⟨90, 0⟩, .metricsApi, .ok (Profiler.Overlap.snapshot 0)⟩
    let other : Fetch Float :=
      ⟨⟨91, 0⟩, .prometheus "vms", .ok (Profiler.Overlap.snapshot 60)⟩
    let failed : Fetch Float := ⟨⟨120, 0⟩, .metricsApi, .error "timeout"⟩
    let before : Repository Float := (ofSources sources).takeOver [first]
    let after : Repository Float :=
      (ofSources sources).takeOver [first, other, failed]
    let pods := [Profiler.Overlap.pod.id]
    after.usage .metricsApi .cpu "app" pods =
        before.usage .metricsApi .cpu "app" pods ∧
      ((before.usage .metricsApi .cpu "app" pods).toOption.map
        fun answer => answer.samples.keys) = some pods ∧
      ∃ status, (.metricsApi, status) ∈ after.statuses ∧
        status.synced = true ∧ status.consecutiveFailures.toNat = 1 := by
  intro sources first other failed before after pods
  obtain ⟨same, -, -, -, -, status⟩ := answers_from_last_success sources
    [first, other, failed] .metricsApi .cpu "app" pods
  have listed : (.metricsApi,
      (Cache.mk (some (Profiler.Overlap.snapshot 0)) (some ⟨90, 0⟩)
        (some "timeout") 1).status) ∈ after.statuses := by
    decide +kernel
  obtain ⟨synced, counted⟩ := status _ listed
  exact ⟨(same [first] rfl).symm, by decide +kernel, _, listed,
    synced.2 ⟨first.outcome, List.mem_cons_self, rfl⟩,
    counted (by decide)⟩

end

end Repository

end UsageForecast
