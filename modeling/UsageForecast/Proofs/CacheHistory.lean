import UsageForecast.Proofs.EngineChange

/-!
# Caches and what has been fetched into them

A cache that was given some outcomes is synced once one of them was a success,
and counts the failures since.  Its counter has 32 bits, so that it is at zero
again after 4294967296 failures in a row.  Only a refresh changes the caches
of an engine, and it changes one of them.
-/

namespace UsageForecast

/-- How many failures have come after the last success. -/
def failuresSince {σ : Type} (outcomes : List (Except String σ)) : Nat :=
  outcomes.foldl
    (fun count outcome => if outcome.isOk then 0 else count + 1) 0

/-- There was no success yet, or the failures since the last one are told by
the counter of a cache. -/
def Troubled {σ : Type} (outcomes : List (Except String σ)) : Prop :=
  (∀ outcome ∈ outcomes, outcome.isOk = false) ∨
    ¬ UInt32.size ∣ failuresSince outcomes

instance {σ : Type} (outcomes : List (Except String σ)) :
    Decidable (Troubled outcomes) :=
  inferInstanceAs (Decidable (_ ∨ _))

section

variable {σ : Type}

theorem failuresSince_concat (outcomes : List (Except String σ))
    (outcome : Except String σ) :
    failuresSince (outcomes ++ [outcome]) =
      if outcome.isOk then 0 else failuresSince outcomes + 1 := by
  rw [failuresSince, List.foldl_append, failuresSince]
  rfl

theorem failuresSince_failures (outcomes : List (Except String σ))
    (error : String) (count : Nat) :
    failuresSince (outcomes ++ List.replicate count (.error error)) =
      failuresSince outcomes + count := by
  induction count with
  | zero => rw [List.replicate_zero, List.append_nil, Nat.add_zero]
  | succ count induction =>
      rw [List.replicate_succ', ← List.append_assoc, failuresSince_concat,
        induction]
      rfl

end

namespace Cache

variable {σ : Type}

/-- Take over an outcome, if there is one. -/
def taken (cache : Cache σ) (now : Instant) :
    Option (Except String σ) → Cache σ
  | none => cache
  | some outcome => cache.refresh now outcome

/-- A cache tells of the outcomes that it was given. -/
structure Reflects (cache : Cache σ) (outcomes : List (Except String σ)) :
    Prop where
  synced : cache.isSynced = outcomes.any fun outcome => outcome.isOk
  failures : cache.consecutiveFailures = .ofNat (failuresSince outcomes)
  error : failuresSince outcomes ≠ 0 → cache.lastError.isSome = true

theorem reflects_empty : (empty : Cache σ).Reflects [] where
  synced := rfl
  failures := rfl
  error := fun counted => absurd rfl counted

theorem Reflects.refresh {cache : Cache σ}
    {outcomes : List (Except String σ)} (reflects : cache.Reflects outcomes)
    (now : Instant) (outcome : Except String σ) :
    (cache.refresh now outcome).Reflects (outcomes ++ [outcome]) := by
  cases outcome with
  | ok snapshot =>
      constructor
      · rw [List.any_append]
        exact (Bool.or_true _).symm
      · rw [failuresSince_concat]
        rfl
      · rw [failuresSince_concat]
        exact fun counted => absurd rfl counted
  | error error =>
      constructor
      · rw [List.any_append]
        exact reflects.synced.trans (Bool.or_false _).symm
      · rw [failuresSince_concat]
        change cache.consecutiveFailures + 1 = .ofNat (_ + 1)
        rw [reflects.failures, UInt32.ofNat_add]
        rfl
      · exact fun _ => rfl

theorem Reflects.taken {cache : Cache σ}
    {outcomes : List (Except String σ)} (reflects : cache.Reflects outcomes)
    (now : Instant) (outcome : Option (Except String σ)) :
    (cache.taken now outcome).Reflects (outcomes ++ outcome.toList) := by
  cases outcome with
  | none =>
      rw [Option.toList_none, List.append_nil]
      exact reflects
  | some outcome => exact reflects.refresh now outcome

theorem isSynced_taken {cache : Cache σ} (synced : cache.isSynced = true)
    (now : Instant) (outcome : Option (Except String σ)) :
    (cache.taken now outcome).isSynced = true := by
  cases outcome with
  | none => exact synced
  | some outcome =>
      cases outcome with
      | ok snapshot => rfl
      | error error => exact synced

theorem Reflects.counter_eq_zero_iff {cache : Cache σ}
    {outcomes : List (Except String σ)}
    (reflects : cache.Reflects outcomes) :
    cache.consecutiveFailures = 0 ↔ UInt32.size ∣ failuresSince outcomes := by
  rw [reflects.failures, ← UInt32.toNat_inj, UInt32.toNat_ofNat',
    UInt32.toNat_zero, Nat.dvd_iff_mod_eq_zero]

/-- What a cache says of its health. -/
theorem Reflects.troubled_iff {cache : Cache σ}
    {outcomes : List (Except String σ)}
    (reflects : cache.Reflects outcomes) :
    Troubled outcomes ↔
      ¬ (cache.status.synced = true ∧
        cache.status.consecutiveFailures = 0) := by
  have synced : cache.status.synced = true ↔
      ¬ ∀ outcome ∈ outcomes, outcome.isOk = false := by
    change cache.isSynced = true ↔ _
    rw [reflects.synced, List.any_eq_true]
    simp
  have counter : cache.status.consecutiveFailures = 0 ↔
      UInt32.size ∣ failuresSince outcomes := reflects.counter_eq_zero_iff
  rw [synced, counter, Troubled, not_and_or, not_not]

end Cache

/-- A repository is synced if one of its caches is. -/
theorem Repository.isSynced_iff {α : Type} {repository : Repository α} :
    repository.isSynced = true ↔
      ∃ source cache, repository.caches.find? source = some cache ∧
        cache.isSynced = true := by
  simp only [isSynced, List.any_eq_true, SortedMap.mem_values_iff]
  constructor
  · rintro ⟨cache, ⟨source, known⟩, synced⟩
    exact ⟨source, cache, known, synced⟩
  · rintro ⟨source, cache, known, synced⟩
    exact ⟨cache, ⟨source, known⟩, synced⟩

/-- A new repository has a cache for each of its sources. -/
theorem Repository.isSome_find?_ofSources {α : Type}
    {sources : List Source} {source : Source} :
    ((ofSources sources : Repository α).caches.find? source).isSome = true ↔
      source ∈ sources := by
  rw [← SortedMap.mem_keys_iff, ofSources, SortedMap.mem_keys_ofList,
    List.map_map]
  simp

/-- A fetch from a source concerns its cache only. -/
theorem Repository.find?_refresh {α : Type} (repository : Repository α)
    (now : Instant) (source : Source)
    (outcome : Except String (UsageSnapshot α)) (other : Source) :
    (repository.refresh now source outcome).1.caches.find? other =
      (repository.caches.find? other).map fun cache =>
        cache.taken now (if other = source then some outcome else none) := by
  unfold refresh Repository.cache
  cases known : repository.caches.find? source with
  | none =>
      by_cases same : other = source
      · simp [same, known]
      · simp [same, Cache.taken]
  | some cache =>
      by_cases same : other = source
      · cases outcome <;> simp [same, known, Cache.taken]
      · cases outcome <;>
          simp [same, SortedMap.find?_insert_of_ne, Cache.taken]

namespace Engine

variable {σ α : Type}

/-- What a step of an engine does to its caches and to the start of its
manager: some of the caches take over an outcome, and the manager starts only
if both kinds of caches are synced. -/
structure Refreshed (now : Instant)
    (usage : Source → Option (Except String (UsageSnapshot α)))
    (cluster : Option (Except String Cluster)) (engine next : Engine σ α) :
    Prop where
  usage : ∀ source, next.repository.caches.find? source =
    (engine.repository.caches.find? source).map fun cache =>
      cache.taken now (usage source)
  cluster : next.resolver.cache = engine.resolver.cache.taken now cluster
  kept : engine.manager.started = true → next.manager.started = true
  started : next.manager.started = true →
    engine.manager.started = true ∨
      engine.repository.isSynced = true ∧ engine.resolver.isSynced = true

section

variable {now : Instant}
  {usage : Source → Option (Except String (UsageSnapshot α))}
  {cluster : Option (Except String Cluster)} {engine next : Engine σ α}

theorem Refreshed.refl (engine : Engine σ α) (now : Instant) :
    Refreshed now (fun _ => none) none engine engine where
  usage := fun _ => Option.map_id.symm ▸ rfl
  cluster := rfl
  kept := id
  started := .inl

/-- What comes after a step may leave the caches and the start alone. -/
theorem Refreshed.continue
    (refreshed : Refreshed now usage cluster engine next)
    {last : Engine σ α} (repository : last.repository = next.repository)
    (resolver : last.resolver = next.resolver)
    (started : last.manager.started = next.manager.started) :
    Refreshed now usage cluster engine last where
  usage := by
    rw [repository]
    exact refreshed.usage
  cluster := by
    rw [resolver]
    exact refreshed.cluster
  kept := fun running => started.trans (refreshed.kept running)
  started := fun running => refreshed.started (started.symm.trans running)

theorem Refreshed.isSynced_repository
    (refreshed : Refreshed now usage cluster engine next)
    (synced : engine.repository.isSynced = true) :
    next.repository.isSynced = true := by
  obtain ⟨source, cache, known, filled⟩ := Repository.isSynced_iff.1 synced
  refine Repository.isSynced_iff.2 ⟨source, cache.taken now (usage source),
    ?_, Cache.isSynced_taken filled now _⟩
  rw [refreshed.usage, known, Option.map_some]

theorem Refreshed.isSynced_resolver
    (refreshed : Refreshed now usage cluster engine next)
    (synced : engine.resolver.isSynced = true) :
    next.resolver.isSynced = true := by
  rw [Resolver.isSynced, refreshed.cluster]
  exact Cache.isSynced_taken synced now cluster

end

section

variable (engine : Engine σ α)

@[simp] theorem repository_countRefresh (cache : String) (failed : Bool) :
    (engine.countRefresh cache failed).repository = engine.repository := by
  unfold countRefresh
  split <;> rfl

@[simp] theorem resolver_countRefresh (cache : String) (failed : Bool) :
    (engine.countRefresh cache failed).resolver = engine.resolver := by
  unfold countRefresh
  split <;> rfl

@[simp] theorem manager_countRefresh (cache : String) (failed : Bool) :
    (engine.countRefresh cache failed).manager = engine.manager := by
  unfold countRefresh
  split <;> rfl

/-- A fetch from a source changes the cache of this source only. -/
theorem refreshed_refreshUsage (now : Instant) (source : Source)
    (outcome : Except String (UsageSnapshot α)) :
    Refreshed now
      (fun other => if other = source then some outcome else none) none
      engine (engine.refreshUsage now source outcome).1 where
  usage := by
    intro other
    simp only [refreshUsage, repository_countRefresh]
    exact Repository.find?_refresh _ now source outcome other
  cluster := by
    simp only [refreshUsage, resolver_countRefresh]
    rfl
  kept := by
    simp only [refreshUsage, manager_countRefresh]
    exact id
  started := by
    simp only [refreshUsage, manager_countRefresh]
    exact .inl

/-- A listing of the cluster changes its view only. -/
theorem refreshed_refreshCluster (now : Instant)
    (outcome : Except String Cluster) :
    Refreshed now (fun _ => none) (some outcome) engine
      (engine.refreshCluster now outcome).1 where
  usage := by
    intro source
    simp only [refreshCluster, repository_countRefresh]
    exact Option.map_id.symm ▸ rfl
  cluster := by
    simp only [refreshCluster, resolver_countRefresh]
    cases outcome <;> rfl
  kept := by
    simp only [refreshCluster, manager_countRefresh]
    exact id
  started := by
    simp only [refreshCluster, manager_countRefresh]
    exact .inl

theorem refreshed_tryStart (now : Instant) :
    Refreshed now (fun _ => none) none engine engine.tryStart where
  usage := fun _ => Option.map_id.symm ▸ rfl
  cluster := rfl
  kept := by
    intro started
    change (engine.manager.started || _) = true
    rw [started, Bool.true_or]
  started := by
    intro started
    change (engine.manager.started ||
      (engine.resolver.isSynced && engine.repository.isSynced)) = true
      at started
    rw [Bool.or_eq_true, Bool.and_eq_true] at started
    exact started.imp_right And.symm

end

section

variable [Analytic α] [CheckpointStore σ α]

theorem started_register {engine : Engine σ α} {now : Instant}
    {key : ProfileKey} {spec : Spec α}
    {answer : Engine σ α × Except Failure Unit}
    (registered : engine.register now key spec = .ok answer) :
    answer.1.repository = engine.repository ∧
      answer.1.resolver = engine.resolver ∧
      answer.1.manager.started = engine.manager.started := by
  obtain ⟨outcome, accepted, answered⟩ := bind_eq_ok_iff.1 registered
  cases outcome with
  | error failure =>
      cases answered
      exact ⟨rfl, rfl, rfl⟩
  | ok registration =>
      cases answered
      obtain ⟨-, profiler, installed⟩ :=
        Manager.install_of_register accepted
      have started : registration.manager.started =
          engine.manager.started := by
        rw [installed]
        rfl
      exact ⟨rfl, rfl, started⟩

theorem refreshed_runRound (engine : Engine σ α) (now : Instant)
    (hashes : Hashes) :
    Refreshed now (fun _ => none) none engine
      (engine.runRound now hashes).1 :=
  (Refreshed.refl engine now).continue rfl rfl
    (Manager.started_runRound _ _ _ _ _ _ _)

omit [Analytic α] in
theorem refreshed_collectGarbage {engine : Engine σ α} {now : Instant}
    {answer : Engine σ α × Nat}
    (collected : engine.collectGarbage now = .ok answer) :
    Refreshed now (fun _ => none) none engine answer.1 := by
  obtain ⟨removed, -, same⟩ := bind_eq_ok_iff.1 collected
  cases same
  exact (Refreshed.refl engine now).continue rfl rfl rfl

/-- Every operation refreshes some of the caches, or none. -/
theorem refreshed_carryOut {engine next : Engine σ α}
    {operation : Operation α}
    (carried : engine.carryOut operation = .ok next) :
    ∃ now usage cluster, Refreshed now usage cluster engine next := by
  cases operation with
  | tryStart =>
      cases carried
      exact ⟨_, _, _, refreshed_tryStart engine default⟩
  | register now key spec =>
      obtain ⟨answer, registered, rfl⟩ := map_eq_ok_iff.1 carried
      obtain ⟨repository, resolver, started⟩ := started_register registered
      exact ⟨_, _, _,
        (Refreshed.refl engine now).continue repository resolver started⟩
  | unregister key =>
      unfold carryOut at carried
      cases removed : engine.unregister key with
      | error failure =>
          simp only [removed] at carried
          cases carried
          exact ⟨_, _, _, .refl engine default⟩
      | ok rest =>
          simp only [removed] at carried
          cases carried
          obtain ⟨manager, erased, same⟩ := bind_eq_ok_iff.1 removed
          cases same
          have started : manager.started = engine.manager.started := by
            rw [Manager.eq_erase_of_unregister erased]
          exact ⟨_, _, _,
            (Refreshed.refl engine default).continue rfl rfl started⟩
  | runRound now hashes =>
      cases carried
      exact ⟨_, _, _, refreshed_runRound engine now hashes⟩
  | collectGarbage now =>
      obtain ⟨answer, collected, rfl⟩ := map_eq_ok_iff.1 carried
      exact ⟨_, _, _, refreshed_collectGarbage collected⟩
  | refreshUsage now source outcome =>
      cases carried
      exact ⟨_, _, _, refreshed_refreshUsage engine now source outcome⟩
  | refreshCluster now outcome =>
      cases carried
      exact ⟨_, _, _, refreshed_refreshCluster engine now outcome⟩
  | publish write =>
      cases carried
      exact ⟨_, _, _, (Refreshed.refl engine default).continue rfl rfl rfl⟩

end

end Engine

end UsageForecast
