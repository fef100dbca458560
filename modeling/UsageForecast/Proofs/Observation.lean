import UsageForecast.Proofs.FoldedSamples

/-!
# Observing as serving offers

Observing a profile at either level is serving a list of named offers: what is
offered to each entry is fixed before any of it is folded.  Entries with
different names do not influence one another, so that each of them ends as it
would alone.
-/

namespace UsageForecast.Profiler

variable {α : Type}

/-- The entry that offers under a name are made to. -/
def addressed (entries : SortedMap String (Entry α)) (now : Instant)
    (seen : Bool) (name : String) : Entry α :=
  let known := (entries.find? name).getD (Entry.empty now)
  if seen then { known with lastSeen := now } else known

theorem addressed_of_find?
    {entries other : SortedMap String (Entry α)} {now : Instant}
    {seen : Bool} {name : String}
    (same : other.find? name = entries.find? name) :
    addressed other now seen name = addressed entries now seen name := by
  simp [addressed, same]

/-- Whether a cycle counts as an observation of the entries it serves. -/
def refreshes (profiler : Profiler α) (pods : List Pod) : Bool :=
  match profiler.key.level with
  | .container => true
  | .pod => !pods.isEmpty

variable [Analytic α]

/-- What one query offers to the entry of a container. -/
def queryOffers (repository : Repository α) (key : ProfileKey)
    (pods : List PodName) (container : String)
    (query : Source × Resource) : List (Offer α) :=
  match repository.usage query.1 query.2 container pods with
  | .ok answer =>
      (answer.samples.listedBy (repository.hashes key container query)).map
        fun (pod, sample) => ⟨⟨pod, query.2⟩, sample⟩
  | .error _ => []

/-- What the total of a pod offers, unless a part of it is missing. -/
def podOffers (answers : QueryAnswers α) (resource : Resource) (pod : Pod) :
    List (Offer α) :=
  match samplesOf answers pod with
  | [] => []
  | first :: rest =>
      if rest.length + 1 < pod.containers.length then []
      else [⟨⟨pod.id, resource⟩, total first rest⟩]

/-- What one query offers to the entry of the pods as a whole. -/
def totalOffers (repository : Repository α) (containers : List String)
    (pods : List Pod) (query : Source × Resource) : List (Offer α) :=
  pods.flatMap <| podOffers
    (askAll repository containers (pods.map Pod.id) query .zero).1 query.2

/-- What a cycle offers, by the name of the entry. -/
def offers (repository : Repository α) (profiler : Profiler α)
    (containers : List String) (pods : List Pod) :
    List (String × List (Offer α)) :=
  match profiler.key.level with
  | .container => containers.map fun container =>
      (container, profiler.spec.queries.flatMap
        (queryOffers repository profiler.key (pods.map Pod.id) container))
  | .pod => [(podEntry, profiler.spec.queries.flatMap
      (totalOffers repository containers pods))]

/-- Make offers to the entry of a name. -/
def serve (quantiles : List (Quantile α)) (now : Instant) (seen : Bool)
    (state : SortedMap String (Entry α) × Nat)
    (served : String × List (Offer α)) : SortedMap String (Entry α) × Nat :=
  let (entry, count) := Entry.takeAll quantiles
    (addressed state.1 now seen served.1, state.2) served.2
  (state.1.insert served.1 entry, count)

/-- What of a state matters here: the tally is read for its samples only. -/
private def score {β : Type} (state : β × Tally) : β × Nat :=
  (state.1, state.2.samples)

section

variable (quantiles : List (Quantile α))

private theorem score_foldl {β : Type}
    {step : Entry α × Tally → β → Entry α × Tally}
    {offered : β → List (Offer α)}
    (each : ∀ state item, score (step state item) =
      Entry.takeAll quantiles (score state) (offered item))
    (items : List β) (state : Entry α × Tally) :
    score (items.foldl step state) =
      Entry.takeAll quantiles (score state) (items.flatMap offered) := by
  induction items generalizing state with
  | nil => rfl
  | cons item items induction =>
      rw [List.foldl_cons, induction, each, List.flatMap_cons,
        Entry.takeAll_append]

private theorem samples_addSample (tally : Tally) (folded : Bool) :
    (tally.addSample folded).samples = tally.samples + folded.toNat := by
  cases folded <;> rfl

private theorem score_foldSamples (resource : Resource)
    (samples : List (PodName × Sample α)) (entry : Entry α)
    (tally : Tally) :
    score (foldSamples quantiles resource samples entry tally) =
      Entry.takeAll quantiles (entry, tally.samples)
        (samples.map fun (pod, sample) => ⟨⟨pod, resource⟩, sample⟩) := by
  induction samples generalizing entry tally with
  | nil => rfl
  | cons head samples induction =>
      obtain ⟨pod, sample⟩ := head
      have step := induction (entry.fold quantiles pod resource sample).1
        (tally.addSample (entry.fold quantiles pod resource sample).2)
      rw [samples_addSample] at step
      exact step

private theorem score_observeContainer (repository : Repository α)
    (key : ProfileKey) (pods : List PodName) (container : String)
    (state : Entry α × Tally) (query : Source × Resource) :
    score (observeContainer repository key quantiles pods container state
        query) =
      Entry.takeAll quantiles (score state)
        (queryOffers repository key pods container query) := by
  obtain ⟨entry, tally⟩ := state
  obtain ⟨source, resource⟩ := query
  simp only [observeContainer, queryOffers]
  cases repository.usage source resource container pods with
  | error failure => rfl
  | ok answer => exact score_foldSamples quantiles _ _ _ _

private theorem score_observePod (answers : QueryAnswers α)
    (query : Source × Resource) (state : Entry α × Tally) (pod : Pod) :
    score (observePod quantiles answers query state pod) =
      Entry.takeAll quantiles (score state)
        (podOffers answers query.2 pod) := by
  unfold observePod podOffers
  cases samplesOf answers pod with
  | nil => rfl
  | cons first rest =>
      simp only
      split
      · rfl
      · simp [score, samples_addSample, Entry.takeAll, Entry.take]

private theorem askAll_samples (repository : Repository α)
    (containers : List String) (pods : List PodName)
    (query : Source × Resource) (tally : Tally) :
    (askAll repository containers pods query tally).1 =
        (askAll repository containers pods query .zero).1 ∧
      (askAll repository containers pods query tally).2.samples =
        tally.samples := by
  unfold askAll
  generalize (∅ : QueryAnswers α) = answers
  generalize Tally.zero = other
  induction containers generalizing answers tally other with
  | nil => exact ⟨rfl, rfl⟩
  | cons container containers induction =>
      simp only [List.foldl_cons]
      cases repository.usage query.1 query.2 container pods with
      | ok answer => exact induction _ _ _
      | error failure => exact induction _ _ _

private theorem score_observePods (repository : Repository α)
    (containers : List String) (pods : List Pod) (state : Entry α × Tally)
    (query : Source × Resource) :
    score (observePods repository quantiles containers pods state query) =
      Entry.takeAll quantiles (score state)
        (totalOffers repository containers pods query) := by
  obtain ⟨same, samples⟩ := askAll_samples repository containers
    (pods.map Pod.id) query state.2
  unfold observePods totalOffers
  simp only
  rw [score_foldl quantiles (score_observePod quantiles _ query), same]
  simp [score, samples]

end

private theorem score_observeContainers (repository : Repository α)
    (key : ProfileKey) (spec : Spec α) (now : Instant)
    (containers : List String) (pods : List PodName)
    (entries : SortedMap String (Entry α)) :
    score (observeContainers repository key spec now containers pods
        entries) =
      containers.foldl
        (fun state container => serve spec.quantiles now true state
          (container, spec.queries.flatMap
            (queryOffers repository key pods container)))
        (entries, 0) := by
  unfold observeContainers
  symm
  rw [show (entries, 0) = score (entries, Tally.zero) from rfl]
  refine List.foldl_hom score ?_
  rintro ⟨entries, tally⟩ container
  have scored := score_foldl spec.quantiles (score_observeContainer
    spec.quantiles repository key pods container) spec.queries
    ({ (entries.find? container).getD (Entry.empty now) with
      lastSeen := now }, tally)
  simp only [serve, addressed, score, if_true] at scored ⊢
  rw [← scored]

private theorem score_observeWhole (repository : Repository α)
    (spec : Spec α) (now : Instant) (containers : List String)
    (pods : List Pod) (entries : SortedMap String (Entry α)) :
    score (observeWhole repository spec now containers pods entries) =
      serve spec.quantiles now (!pods.isEmpty) (entries, 0)
        (podEntry, spec.queries.flatMap
          (totalOffers repository containers pods)) := by
  have scored := score_foldl spec.quantiles (score_observePods
    spec.quantiles repository containers pods) spec.queries
    (addressed entries now (!pods.isEmpty) podEntry, .zero)
  unfold observeWhole serve
  simp only [score] at scored ⊢
  rw [show (Tally.zero).samples = 0 from rfl] at scored
  rw [← scored]
  cases empty : pods.isEmpty <;> simp [addressed]

/-- Observing serves what the caches offer, entry by entry. -/
theorem observe_eq_serve (repository : Repository α)
    (profiler : Profiler α) (now : Instant) (containers : List String)
    (pods : List Pod) (entries : SortedMap String (Entry α)) :
    let observed :=
      observe repository profiler now containers pods entries
    (observed.1, observed.2.samples) =
      (offers repository profiler containers pods).foldl
        (serve profiler.spec.quantiles now (profiler.refreshes pods))
        (entries, 0) := by
  unfold observe offers refreshes
  cases profiler.key.level with
  | container =>
      rw [List.foldl_map]
      exact score_observeContainers _ _ _ _ _ _ _
  | pod => exact score_observeWhole _ _ _ _ _ _

section

variable {quantiles : List (Quantile α)} {now : Instant} {seen : Bool}

theorem serve_find?_of_ne
    {state : SortedMap String (Entry α) × Nat}
    {served : String × List (Offer α)} {name : String}
    (different : name ≠ served.1) :
    (serve quantiles now seen state served).1.find? name =
      state.1.find? name :=
  SortedMap.find?_insert_of_ne _ _ different

/-- Names that are not served keep their entries. -/
theorem serveAll_find?_of_not_mem
    {state : SortedMap String (Entry α) × Nat}
    {served : List (String × List (Offer α))} {name : String}
    (absent : name ∉ served.map (·.1)) :
    (served.foldl (serve quantiles now seen) state).1.find? name =
      state.1.find? name := by
  induction served generalizing state with
  | nil => rfl
  | cons head served induction =>
      simp only [List.map_cons, List.mem_cons, not_or] at absent
      rw [List.foldl_cons, induction absent.2, serve_find?_of_ne absent.1]

/-- An entry that is served ends as it would alone. -/
theorem serveAll_find?_of_mem
    {state : SortedMap String (Entry α) × Nat}
    {served : List (String × List (Offer α))} {name : String}
    {offers : List (Offer α)} (distinct : (served.map (·.1)).Nodup)
    (member : (name, offers) ∈ served) :
    (served.foldl (serve quantiles now seen) state).1.find? name =
      some (Entry.takeAll quantiles
        (addressed state.1 now seen name, 0) offers).1 := by
  induction served generalizing state with
  | nil => cases member
  | cons head served induction =>
      obtain ⟨fresh, distinctTail⟩ := List.nodup_cons.1 distinct
      rw [List.foldl_cons]
      rcases List.mem_cons.1 member with rfl | later
      · rw [serveAll_find?_of_not_mem fresh, serve, ← Nat.zero_add state.2,
          Entry.takeAll_add]
        exact SortedMap.find?_insert_self _ _ _
      · have different : name ≠ head.1 :=
          ne_of_mem_of_not_mem (List.mem_map.2 ⟨_, later, rfl⟩) fresh
        rw [induction distinctTail later,
          addressed_of_find? (serve_find?_of_ne different)]

theorem serve_count (state : SortedMap String (Entry α) × Nat)
    (served : String × List (Offer α)) :
    (serve quantiles now seen state served).2 =
      state.2 + (taken (addressed state.1 now seen served.1).folded.find?
        served.2).length :=
  Entry.count_takeAll

/-- Each entry folds what it would fold alone. -/
theorem serveAll_count
    {state : SortedMap String (Entry α) × Nat}
    {served : List (String × List (Offer α))}
    (distinct : (served.map (·.1)).Nodup) :
    (served.foldl (serve quantiles now seen) state).2 =
      state.2 + (served.flatMap fun pair =>
        taken (addressed state.1 now seen pair.1).folded.find?
          pair.2).length := by
  induction served generalizing state with
  | nil => rfl
  | cons head served induction =>
      obtain ⟨fresh, distinctTail⟩ := List.nodup_cons.1 distinct
      have alone : ∀ pair ∈ served,
          taken (addressed (serve quantiles now seen state head).1 now seen
              pair.1).folded.find? pair.2 =
            taken (addressed state.1 now seen pair.1).folded.find?
              pair.2 := by
        intro pair member
        have different : pair.1 ≠ head.1 :=
          ne_of_mem_of_not_mem (List.mem_map.2 ⟨pair, member, rfl⟩) fresh
        rw [addressed_of_find? (serve_find?_of_ne different)]
      rw [List.foldl_cons, induction distinctTail, serve_count,
        List.flatMap_cons, List.length_append, List.flatMap_def,
        List.flatMap_def, List.map_congr_left alone, Nat.add_assoc]

end

theorem offers_nodup (repository : Repository α) (profiler : Profiler α)
    {containers : List String} (distinct : containers.Nodup)
    (pods : List Pod) :
    ((offers repository profiler containers pods).map (·.1)).Nodup := by
  unfold offers
  cases profiler.key.level with
  | container => simpa [Function.comp_def] using distinct
  | pod => simp

end UsageForecast.Profiler
