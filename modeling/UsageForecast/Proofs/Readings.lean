import UsageForecast.Proofs.OfferOrigin

/-!
# What the caches show of a container

A reading is what the snapshot of a source shows of one resource of one
container of a pod, if its value is well-formed.  A query is answered with the
readings of the pods that were asked for, and only a source without a snapshot
answers nothing.  What a cycle offers is described by readings, so that later
modules need not look into the loops that gather them.
-/

namespace UsageForecast

theorem Quantity.isFinite_of_parse {α : Type} [Scalar α] {text : String}
    {resource : Resource} {value : α}
    (parsed : Quantity.parse text resource = .ok value) :
    Scalar.isFinite value = true := by
  unfold Quantity.parse at parsed
  dsimp only at parsed
  split at parsed
  · split at parsed
    · cases parsed
    · split at parsed
      · cases parsed
      · split at parsed
        next finite =>
          obtain rfl := Except.ok.inj parsed
          exact finite
        · cases parsed
  · cases parsed

theorem Quantity.isFinite_of_check {α : Type} [Scalar α]
    {amount value : α} {resource : Resource}
    (checked : Quantity.check amount resource = .ok value) :
    Scalar.isFinite value = true := by
  unfold Quantity.check at checked
  split at checked
  next admitted =>
    obtain rfl := Except.ok.inj checked
    exact (Bool.and_eq_true _ _ ▸ admitted).1
  · cases checked

/-- Only finite values are admitted. -/
theorem Measurement.isFinite_of_read {α : Type} [Scalar α]
    {measurement : Measurement α} {resource : Resource} {value : α}
    (read : measurement.read resource = .ok value) :
    Scalar.isFinite value = true := by
  cases measurement with
  | text quantity =>
      simp only [Measurement.read] at read
      cases parsed : (Quantity.parse quantity resource : Except _ α) with
      | error fault =>
          rw [parsed] at read
          cases read
      | ok parsedValue =>
          rw [parsed] at read
          obtain rfl := Except.ok.inj read
          exact Quantity.isFinite_of_parse parsed
  | value amount =>
      simp only [Measurement.read] at read
      cases checked : Quantity.check amount resource with
      | error fault =>
          rw [checked] at read
          cases read
      | ok checkedValue =>
          rw [checked] at read
          obtain rfl := Except.ok.inj read
          exact Quantity.isFinite_of_check checked

section

variable {α : Type} [Scalar α]

/-- What a snapshot shows of one resource of one container of a pod, if its
value is well-formed. -/
def UsageSnapshot.reading? (snapshot : UsageSnapshot α)
    (resource : Resource) (container : String) (pod : PodName) :
    Option (Sample α) := do
  let usage ← snapshot.find? pod
  let measurement ← usage.find? container resource
  let value ← (measurement.read resource).toOption
  return ⟨usage.timestamp, value⟩

/-- The value of a reading was read from a measurement. -/
theorem UsageSnapshot.read_of_reading {snapshot : UsageSnapshot α}
    {resource : Resource} {container : String} {pod : PodName}
    {sample : Sample α}
    (shown : UsageSnapshot.reading? snapshot resource container pod =
      some sample) :
    ∃ measurement : Measurement α,
      measurement.read resource = .ok sample.value := by
  obtain ⟨usage, -, shown⟩ := Option.bind_eq_some_iff.1 shown
  obtain ⟨measurement, -, shown⟩ := Option.bind_eq_some_iff.1 shown
  obtain ⟨value, admitted, same⟩ := Option.bind_eq_some_iff.1 shown
  obtain rfl := Option.some.inj same
  refine ⟨measurement, ?_⟩
  cases read : measurement.read resource with
  | error failure =>
      rw [read] at admitted
      cases admitted
  | ok readValue =>
      rw [read] at admitted
      exact congrArg Except.ok (Option.some.inj admitted)

namespace Repository

/-- The last good snapshot of a source. -/
def snapshot? (repository : Repository α) (source : Source) :
    Option (UsageSnapshot α) := do
  let cache ← repository.caches.find? source
  cache.snapshot

/-- What the cached snapshot of a source shows of one resource of one
container of a pod, if its value is well-formed. -/
def reading? (repository : Repository α) (source : Source)
    (resource : Resource) (container : String) (pod : PodName) :
    Option (Sample α) :=
  (repository.snapshot? source).bind fun snapshot =>
    UsageSnapshot.reading? snapshot resource container pod

/-- Why a source without a snapshot answers nothing. -/
def silence (repository : Repository α) (source : Source) : Failure :=
  match repository.cache source with
  | .error failure => failure
  | .ok _ => .unavailable s!"{source.display} has not synced yet"

omit [Scalar α] in
/-- It has no cache, or an empty one. -/
theorem silence_eq (repository : Repository α) (source : Source) :
    repository.silence source = .unavailable
      (if (repository.caches.find? source).isSome then
        s!"{source.display} has not synced yet"
      else s!"no source configured for {source.display}") := by
  unfold silence cache
  cases repository.caches.find? source <;> rfl

variable {repository : Repository α} {source : Source}
  {snapshot : UsageSnapshot α} {resource : Resource} {container : String}
  {pods : List PodName}

theorem read_of_reading {pod : PodName} {sample : Sample α}
    (shown : repository.reading? source resource container pod =
      some sample) :
    ∃ measurement : Measurement α,
      measurement.read resource = .ok sample.value := by
  obtain ⟨snapshot, -, shown⟩ := Option.bind_eq_some_iff.1 shown
  exact UsageSnapshot.read_of_reading shown

theorem isFinite_reading {pod : PodName} {sample : Sample α}
    (shown : repository.reading? source resource container pod =
      some sample) : Scalar.isFinite sample.value = true := by
  obtain ⟨measurement, read⟩ := read_of_reading shown
  exact Measurement.isFinite_of_read read

theorem time?_of_reading {pod : PodName} {sample : Sample α}
    (shown : repository.reading? source resource container pod =
      some sample) :
    repository.time? source pod = some sample.timestamp := by
  obtain ⟨snapshot, found, shown⟩ := Option.bind_eq_some_iff.1 shown
  obtain ⟨cache, known, cached⟩ := Option.bind_eq_some_iff.1 found
  obtain ⟨usage, listed, shown⟩ := Option.bind_eq_some_iff.1 shown
  obtain ⟨measurement, -, shown⟩ := Option.bind_eq_some_iff.1 shown
  obtain ⟨value, -, same⟩ := Option.bind_eq_some_iff.1 shown
  obtain rfl := Option.some.inj same
  simp [time?, known, cached, listed]

private theorem find?_addReading (answer : UsageAnswer α)
    (asked pod : PodName) :
    (UsageAnswer.add snapshot resource container answer
      asked).samples.find? pod =
        if pod = asked then
          (UsageSnapshot.reading? snapshot resource container pod).or
            (answer.samples.find? pod)
        else answer.samples.find? pod := by
  by_cases same : pod = asked
  · subst same
    rw [if_pos rfl, UsageAnswer.add, UsageSnapshot.reading?]
    cases snapshot.find? pod with
    | none => rfl
    | some usage =>
        cases found : usage.find? container resource with
        | none => simp [found]
        | some measurement =>
            cases read : measurement.read resource with
            | error failure => simp [found, read, Except.toOption]
            | ok value => simp [found, read, Except.toOption]
  · rw [if_neg same, UsageAnswer.add]
    cases snapshot.find? asked with
    | none => rfl
    | some usage =>
        cases found : usage.find? container resource with
        | none => simp [found]
        | some measurement =>
            cases read : measurement.read resource with
            | error failure => simp [found, read]
            | ok value =>
                simp [found, read, SortedMap.find?_insert_of_ne _ _ same]

private theorem find?_addReadings (answer : UsageAnswer α) (pod : PodName) :
    (pods.foldl (UsageAnswer.add snapshot resource container)
      answer).samples.find? pod =
        if pod ∈ pods then
          (UsageSnapshot.reading? snapshot resource container pod).or
            (answer.samples.find? pod)
        else answer.samples.find? pod := by
  induction pods generalizing answer with
  | nil => rfl
  | cons asked pods induction =>
      rw [List.foldl_cons, induction, find?_addReading]
      by_cases same : pod = asked
      · subst same
        cases UsageSnapshot.reading? snapshot resource container pod <;>
          simp
      · simp [same]

/-- A source with a snapshot answers with its readings of the pods that were
asked for. -/
theorem usage_of_snapshot (shown : repository.snapshot? source =
    some snapshot) (resource : Resource) (container : String)
    (pods : List PodName) :
    ∃ answer,
      repository.usage source resource container pods = .ok answer ∧
      ∀ pod, answer.samples.find? pod =
        if pod ∈ pods then
          repository.reading? source resource container pod
        else none := by
  obtain ⟨cache, known, shown⟩ := Option.bind_eq_some_iff.1 shown
  refine ⟨pods.foldl (UsageAnswer.add snapshot resource container) ⟨∅, 0⟩,
    ?_, fun pod => ?_⟩
  · simp only [usage, Repository.cache, known, shown, bind, Except.bind]
  · rw [find?_addReadings]
    simp [reading?, snapshot?, known, shown]

/-- A source without a snapshot answers nothing. -/
theorem usage_of_silent (silent : repository.snapshot? source = none)
    (resource : Resource) (container : String) (pods : List PodName) :
    repository.usage source resource container pods =
      .error (repository.silence source) := by
  unfold usage silence Repository.cache
  cases known : repository.caches.find? source with
  | none => rfl
  | some cache =>
      have empty : cache.snapshot = none := by
        simpa [snapshot?, known] using silent
      simp [bind, Except.bind, empty]

theorem reading?_of_silent (silent : repository.snapshot? source = none)
    (pod : PodName) :
    repository.reading? source resource container pod = none := by
  rw [reading?, silent, Option.bind_none]

end Repository

end

namespace Profiler

variable {α : Type} [Analytic α] {repository : Repository α}

/-- Some pods, each of them once, in the order of their numbers. -/
def listing (number : PodName → Nat) (pods : List PodName) : List PodName :=
  ((SortedMap.ofList (pods.map fun pod => (pod, ()))).listedBy number).map
    Prod.fst

theorem perm_listing (number : PodName → Nat) (pods : List PodName) :
    (listing number pods).Perm (sortDistinct pods) :=
  (SortedMap.perm_listedBy _ number).map Prod.fst

theorem mem_listing_iff {number : PodName → Nat} {pods : List PodName}
    {pod : PodName} : pod ∈ listing number pods ↔ pod ∈ pods :=
  (perm_listing number pods).mem_iff.trans mem_sortDistinct_iff

/-- A query offers the readings of the pods in the order of its answer. -/
theorem queryOffers_eq (repository : Repository α) (key : ProfileKey)
    (pods : List PodName) (container : String)
    (query : Source × Resource) :
    queryOffers repository key pods container query =
      (listing (repository.hashes key container query) pods).filterMap
        fun pod =>
          (repository.reading? query.1 query.2 container pod).map
            fun sample => ⟨⟨pod, query.2⟩, sample⟩ := by
  cases shown : repository.snapshot? query.1 with
  | none =>
      rw [queryOffers, Repository.usage_of_silent shown]
      simp [Repository.reading?_of_silent shown]
  | some snapshot =>
      obtain ⟨answer, answered, readings⟩ :=
        Repository.usage_of_snapshot shown query.2 container pods
      have samples : answer.samples =
          (SortedMap.ofList (pods.map fun pod => (pod, ()))).filterMapValues
            fun pod _ =>
              repository.reading? query.1 query.2 container pod := by
        refine SortedMap.eq_of_find?_eq fun pod => ?_
        rw [readings, SortedMap.find?_filterMapValues]
        by_cases member : pod ∈ pods
        · obtain ⟨_, found⟩ := Option.isSome_iff_exists.1 <|
            SortedMap.mem_keys_iff.1 (mem_sortDistinct_iff.2 member)
          rw [if_pos member, found]
          rfl
        · have absent : (SortedMap.ofList
              (pods.map fun pod => (pod, ()))).find? pod = none :=
            SortedMap.find?_eq_none_iff.2
              (mt mem_sortDistinct_iff.1 member)
          rw [if_neg member, absent]
          rfl
      rw [queryOffers, answered]
      simp only [samples, SortedMap.listedBy_filterMapValues, listing,
        List.map_filterMap, List.filterMap_map, Option.map_map]
      rfl

/-- Ask what one container used. -/
def askOne (repository : Repository α) (pods : List PodName)
    (query : Source × Resource) (state : QueryAnswers α × Tally)
    (container : String) : QueryAnswers α × Tally :=
  match repository.usage query.1 query.2 container pods with
  | .ok answer => (state.1.insert container answer.samples,
      state.2.addMalformed answer.malformed)
  | .error failure => (state.1, state.2.fail (queryFailure query.1 container
      query.2 failure.message))

theorem askAll_eq_foldl (containers : List String) (pods : List PodName)
    (query : Source × Resource) (tally : Tally) :
    askAll repository containers pods query tally =
      containers.foldl (askOne repository pods query) (∅, tally) := rfl

private theorem find?_askAll (containers : List String)
    (pods : List PodName) (query : Source × Resource)
    (state : QueryAnswers α × Tally) (container : String) :
    (containers.foldl (askOne repository pods query) state).1.find?
        container =
      if container ∈ containers then
        ((repository.usage query.1 query.2 container pods).toOption.map
          UsageAnswer.samples).or (state.1.find? container)
      else state.1.find? container := by
  induction containers generalizing state with
  | nil => rfl
  | cons first containers induction =>
      rw [List.foldl_cons, induction, askOne]
      by_cases same : container = first
      · subst same
        cases repository.usage query.1 query.2 container pods <;>
          simp [Except.toOption]
      · cases repository.usage query.1 query.2 first pods <;>
          simp [same, SortedMap.find?_insert_of_ne]

/-- The samples of a pod are the readings of its containers. -/
theorem samplesOf_askAll {containers : List String} {pods : List PodName}
    {query : Source × Resource} (tally : Tally) {pod : Pod}
    (resolved : pod.id ∈ pods)
    (covered : ∀ container ∈ pod.containers, container ∈ containers) :
    samplesOf (askAll repository containers pods query tally).1 pod =
      pod.containers.filterMap fun container =>
        repository.reading? query.1 query.2 container pod.id := by
  refine List.filterMap_congr fun container member => ?_
  have answers : (askAll repository containers pods query tally).1.find?
      container =
        (repository.usage query.1 query.2 container pods).toOption.map
          UsageAnswer.samples := by
    rw [askAll_eq_foldl, find?_askAll, if_pos (covered container member),
      SortedMap.find?_empty, Option.or_none]
  rw [answers]
  cases shown : repository.snapshot? query.1 with
  | none =>
      rw [Repository.usage_of_silent shown,
        Repository.reading?_of_silent shown]
      rfl
  | some snapshot =>
      obtain ⟨answer, answered, readings⟩ :=
        Repository.usage_of_snapshot shown query.2 container pods
      rw [answered]
      change answer.samples.find? pod.id = _
      rw [readings, if_pos resolved]

end Profiler

end UsageForecast
