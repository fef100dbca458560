import UsageForecast.Proofs.Observation

/-!
# Where offers come from

Every offer goes back to one query: it is for a pod that the cycle resolved
and carries the time at which the snapshot of the queried source shows that
pod.  If no two sources serve one resource, a slot is therefore never offered
at two times.
-/

namespace UsageForecast

/-- Every resource is served by one source only. -/
def Spec.Separate {α : Type} (spec : Spec α) : Prop :=
  ∀ left ∈ spec.queries, ∀ right ∈ spec.queries,
    left.2 = right.2 → left.1 = right.1

namespace Repository

variable {α : Type}

/-- The time at which the snapshot of a source shows a pod. -/
def time? (repository : Repository α) (source : Source) (pod : PodName) :
    Option Instant := do
  let cache ← repository.caches.find? source
  let snapshot ← cache.snapshot
  let usage ← snapshot.find? pod
  return usage.timestamp

variable [Scalar α]

private theorem find?_add
    {snapshot : UsageSnapshot α} {resource : Resource} {container : String}
    {answer : UsageAnswer α} {asked pod : PodName} {sample : Sample α}
    (found : (UsageAnswer.add snapshot resource container answer
      asked).samples.find? pod = some sample) :
    answer.samples.find? pod = some sample ∨ pod = asked ∧
      (snapshot.find? pod).map PodUsage.timestamp =
        some sample.timestamp := by
  unfold UsageAnswer.add at found
  split at found
  · exact .inl found
  next usage shown =>
    split at found
    · exact .inl found
    · split at found
      · by_cases same : pod = asked
        · subst same
          rw [SortedMap.find?_insert_self] at found
          refine .inr ⟨rfl, ?_⟩
          rw [shown, ← Option.some.inj found]
          rfl
        · rw [SortedMap.find?_insert_of_ne _ _ same] at found
          exact .inl found
      · exact .inl found

private theorem find?_addAll
    {snapshot : UsageSnapshot α} {resource : Resource} {container : String}
    {answer : UsageAnswer α} {asked : List PodName} {pod : PodName}
    {sample : Sample α}
    (found : (asked.foldl (UsageAnswer.add snapshot resource container)
      answer).samples.find? pod = some sample) :
    answer.samples.find? pod = some sample ∨ pod ∈ asked ∧
      (snapshot.find? pod).map PodUsage.timestamp =
        some sample.timestamp := by
  induction asked generalizing answer with
  | nil => exact .inl found
  | cons first asked induction =>
      rcases induction found with earlier | ⟨member, time⟩
      · rcases find?_add earlier with before | ⟨rfl, time⟩
        · exact .inl before
        · exact .inr ⟨List.mem_cons_self, time⟩
      · exact .inr ⟨List.mem_cons_of_mem _ member, time⟩

/-- The samples of an answer are of pods that were asked for, at the times
that the snapshot shows. -/
theorem usage_sample
    {repository : Repository α} {source : Source} {resource : Resource}
    {container : String} {pods : List PodName} {answer : UsageAnswer α}
    (answered : repository.usage source resource container pods =
      .ok answer)
    {pod : PodName} {sample : Sample α}
    (found : answer.samples.find? pod = some sample) :
    pod ∈ pods ∧
      repository.time? source pod = some sample.timestamp := by
  unfold usage cache at answered
  split at answered
  next cache known =>
    cases shown : cache.snapshot with
    | none => simp [bind, Except.bind, shown] at answered
    | some snapshot =>
        simp only [bind, Except.bind, shown, Except.ok.injEq] at answered
        subst answered
        rcases find?_addAll found with absent | ⟨member, time⟩
        · cases absent
        · obtain ⟨usage, listed, same⟩ := Option.map_eq_some_iff.1 time
          refine ⟨member, ?_⟩
          simp [time?, known, shown, listed, same]
  next => cases answered

end Repository

namespace Profiler

variable {α : Type}

theorem latest_foldl
    {time : Instant} {samples : List (Sample α)}
    (times : ∀ sample ∈ samples, sample.timestamp = time) :
    samples.foldl (fun latest sample => latest.latest sample.timestamp)
      time = time := by
  induction samples with
  | nil => rfl
  | cons sample samples induction =>
      have head := times sample List.mem_cons_self
      have step : time.latest sample.timestamp = time := by
        simp [Instant.latest, head]
      rw [List.foldl_cons, step]
      exact induction fun later member =>
        times later (List.mem_cons_of_mem _ member)

variable [Analytic α]

/-- An offer as a query of a source makes it. -/
private def FromQuery (repository : Repository α) (pods : List PodName)
    (query : Source × Resource) (offer : Offer α) : Prop :=
  offer.observed.resource = query.2 ∧ offer.observed.pod ∈ pods ∧
    repository.time? query.1 offer.observed.pod =
      some offer.sample.timestamp

private theorem queryOffers_origin
    {repository : Repository α} {key : ProfileKey} {pods : List PodName}
    {container : String} {query : Source × Resource} {offer : Offer α}
    (member : offer ∈ queryOffers repository key pods container query) :
    FromQuery repository pods query offer := by
  unfold queryOffers at member
  split at member
  next answer answered =>
    obtain ⟨⟨pod, sample⟩, listed, rfl⟩ := List.mem_map.1 member
    have held := (SortedMap.perm_listedBy _ _).mem_iff.1 listed
    obtain ⟨asked, time⟩ := Repository.usage_sample answered
      (SortedMap.find?_eq_some_iff.2 held)
    exact ⟨rfl, asked, time⟩
  next => cases member

private theorem askAll_origin
    {repository : Repository α} {containers : List String}
    {pods : List PodName} {query : Source × Resource} {tally : Tally}
    {container : String} {samples : SortedMap PodName (Sample α)}
    (found : (askAll repository containers pods query tally).1.find?
      container = some samples) {pod : PodName} {sample : Sample α}
    (held : samples.find? pod = some sample) :
    repository.time? query.1 pod = some sample.timestamp := by
  unfold askAll at found
  generalize empty : (∅ : QueryAnswers α) = answers at found
  have known : answers.find? container = some samples →
      repository.time? query.1 pod = some sample.timestamp := by
    rw [← empty]
    intro absent
    cases absent
  clear empty
  induction containers generalizing answers tally with
  | nil => exact known found
  | cons first containers induction =>
      rw [List.foldl_cons] at found
      cases answered : repository.usage query.1 query.2 first pods with
      | error failure =>
          simp only [answered] at found
          exact induction answers found known
      | ok answer =>
          simp only [answered] at found
          refine induction _ found ?_
          intro inserted
          by_cases same : container = first
          · subst same
            rw [SortedMap.find?_insert_self] at inserted
            obtain rfl := Option.some.inj inserted
            exact (Repository.usage_sample answered held).2
          · rw [SortedMap.find?_insert_of_ne _ _ same] at inserted
            exact known inserted

private theorem samplesOf_origin
    {repository : Repository α} {containers : List String}
    {pods : List PodName} {query : Source × Resource} {tally : Tally}
    {pod : Pod} {sample : Sample α}
    (member : sample ∈ samplesOf
      (askAll repository containers pods query tally).1 pod) :
    repository.time? query.1 pod.id = some sample.timestamp := by
  obtain ⟨container, -, sampled⟩ := List.mem_filterMap.1 member
  obtain ⟨samples, found, held⟩ := Option.bind_eq_some_iff.1 sampled
  exact askAll_origin found held

private theorem totalOffers_origin
    {repository : Repository α} {containers : List String}
    {pods : List Pod} {query : Source × Resource} {offer : Offer α}
    (member : offer ∈ totalOffers repository containers pods query) :
    FromQuery repository (pods.map Pod.id) query offer := by
  obtain ⟨pod, resolved, offered⟩ := List.mem_flatMap.1 member
  have origin : ∀ sample ∈ samplesOf (askAll repository containers
      (pods.map Pod.id) query .zero).1 pod,
      repository.time? query.1 pod.id = some sample.timestamp :=
    fun sample sampled => samplesOf_origin sampled
  unfold podOffers at offered
  split at offered
  · cases offered
  next first rest listed =>
    split at offered
    · cases offered
    · obtain rfl := List.mem_singleton.1 offered
      rw [listed] at origin
      have time := origin first List.mem_cons_self
      have latest : (total first rest).timestamp = first.timestamp :=
        latest_foldl fun sample later => by
          have same := origin sample (List.mem_cons_of_mem _ later)
          rw [time] at same
          exact (Option.some.inj same).symm
      exact ⟨rfl, List.mem_map.2 ⟨pod, resolved, rfl⟩, by rw [latest, time]⟩

/-- Every offer is made by a query of the spec, for a resolved pod and at the
time that the snapshot of its source shows for the pod. -/
theorem offer_origin
    {repository : Repository α} {profiler : Profiler α}
    {containers : List String} {pods : List Pod}
    {name : String} {offered : List (Offer α)} {offer : Offer α}
    (served : (name, offered) ∈ offers repository profiler containers pods)
    (member : offer ∈ offered) :
    ∃ source, (source, offer.observed.resource) ∈ profiler.spec.queries ∧
      offer.observed.pod ∈ pods.map Pod.id ∧
      repository.time? source offer.observed.pod =
        some offer.sample.timestamp := by
  have origin : ∃ query ∈ profiler.spec.queries,
      FromQuery repository (pods.map Pod.id) query offer := by
    unfold offers at served
    split at served
    · obtain ⟨container, -, same⟩ := List.mem_map.1 served
      cases same
      obtain ⟨query, asked, made⟩ := List.mem_flatMap.1 member
      exact ⟨query, asked, queryOffers_origin made⟩
    · cases List.mem_singleton.1 served
      obtain ⟨query, asked, made⟩ := List.mem_flatMap.1 member
      exact ⟨query, asked, totalOffers_origin made⟩
  obtain ⟨⟨source, resource⟩, asked, same, resolved, time⟩ := origin
  exact ⟨source, same ▸ asked, resolved, time⟩

/-- If every resource is served by one source only, no slot is offered at two
times. -/
theorem concordant_of_separate
    {repository : Repository α} {profiler : Profiler α}
    {containers : List String} {pods : List Pod}
    {name : String} {offered : List (Offer α)}
    (separate : profiler.spec.Separate)
    (served : (name, offered) ∈
      offers repository profiler containers pods) :
    Concordant offered := by
  intro left leftMember right rightMember same
  obtain ⟨leftSource, leftAsked, -, leftTime⟩ :=
    offer_origin served leftMember
  obtain ⟨rightSource, rightAsked, -, rightTime⟩ :=
    offer_origin served rightMember
  have sources : leftSource = rightSource :=
    separate _ leftAsked _ rightAsked (by rw [same])
  rw [sources, same, rightTime] at leftTime
  exact (Option.some.inj leftTime).symm

end Profiler

end UsageForecast
