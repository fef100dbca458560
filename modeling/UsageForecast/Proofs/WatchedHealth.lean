import UsageForecast.Proofs.DaemonEvents

/-!
# The health of a watched daemon

At every tick the daemon takes over what its caches tell.  A cache that was
filled once is never emptied, so a manager that has started has what it needs
from then on, and a fetch or a write that fails degrades the daemon at most.
-/

namespace UsageForecast

namespace Health

/-- The worst of some statuses is unhealthy only if one of them is. -/
theorem worst_ne_unhealthy_iff {left right : Status} :
    left.worst right ≠ .unhealthy ↔
      left ≠ .unhealthy ∧ right ≠ .unhealthy := by
  cases left <;> cases right <;> decide

theorem foldl_worst_ne_unhealthy_iff {components : List Component}
    {start : Status} :
    components.foldl
        (fun status component => status.worst component.status) start ≠
          .unhealthy ↔
      start ≠ .unhealthy ∧
        ∀ component ∈ components, component.status ≠ .unhealthy := by
  induction components generalizing start with
  | nil => simp
  | cons component components induction =>
      rw [List.foldl_cons, induction, worst_ne_unhealthy_iff,
        List.forall_mem_cons, and_assoc]

/-- A daemon is unhealthy only through one of its components. -/
theorem status_ne_unhealthy_iff {health : Health} :
    health.status ≠ .unhealthy ↔
      ∀ name component, health.components.find? name = some component →
        component.status ≠ .unhealthy := by
  rw [status, foldl_worst_ne_unhealthy_iff]
  simp only [ne_eq, reduceCtorEq, not_false_eq_true, true_and,
    SortedMap.mem_values_iff]
  exact ⟨fun all name component known => all component ⟨name, known⟩,
    fun all component ⟨name, known⟩ => all name component known⟩

@[simp] theorem find?_update (health : Health) (name other : String)
    (component : Component) :
    (health.update name component).components.find? other =
      if other = name then some component
      else health.components.find? other :=
  SortedMap.find?_insert _ _ _ _

/-- Among caches one of which is synced, one that is not synced or whose
counter is not at zero degrades their component, and nothing makes it
unhealthy. -/
theorem Component.ofCaches_of_synced (now : Instant)
    {statuses : List Cache.Status}
    (synced : ∃ status ∈ statuses, status.synced = true)
    (told : ∀ status ∈ statuses, status.consecutiveFailures ≠ 0 →
      status.lastError.isSome = true) :
    (ofCaches now statuses).status =
      if ∀ status ∈ statuses,
          status.synced = true ∧ status.consecutiveFailures = 0 then
        .healthy
      else .degraded := by
  have counted : (statuses.filter fun status => status.synced).length ≠ 0 := by
    obtain ⟨status, member, filled⟩ := synced
    exact List.length_pos_iff.2
      (List.ne_nil_of_mem (List.mem_filter.2 ⟨member, filled⟩)) |>.ne'
  have complete :
      (statuses.filter fun status => status.synced).length =
          statuses.length ↔
        ∀ status ∈ statuses, status.synced = true :=
    List.length_filter_eq_length_iff
  unfold ofCaches
  cases failing : statuses.findSome? failingError? with
  | none =>
      have quiet : ∀ status ∈ statuses, status.consecutiveFailures = 0 := by
        intro status member
        by_contra counted
        have silent := List.findSome?_eq_none_iff.1 failing status member
        rw [failingError?, if_neg counted] at silent
        have error := told status member counted
        rw [silent] at error
        cases error
      by_cases all : ∀ status ∈ statuses, status.synced = true
      · have both : ∀ status ∈ statuses,
            status.synced = true ∧ status.consecutiveFailures = 0 :=
          fun status member => ⟨all status member, quiet status member⟩
        simp only [complete.2 all, if_true, if_pos both, healthy]
      · have missing : ¬ ∀ status ∈ statuses,
            status.synced = true ∧ status.consecutiveFailures = 0 :=
          fun both => all fun status member => (both status member).1
        simp only [mt complete.1 all, if_false, if_neg missing, degraded]
  | some error =>
      obtain ⟨status, member, found⟩ := List.exists_of_findSome?_eq_some failing
      have missing : ¬ ∀ status ∈ statuses,
          status.synced = true ∧ status.consecutiveFailures = 0 := by
        intro both
        rw [failingError?, if_pos (both status member).2] at found
        cases found
      simp only [counted, if_false, if_neg missing, degraded]

end Health

namespace Daemon

variable {σ α : Type}

/-- What a tick makes of the health. -/
theorem find?_watchHealth {daemon : Daemon σ α} {engine : Engine σ α}
    (running : daemon.engine? = some engine) (now : Instant)
    (name : String) :
    (daemon.watchHealth now).health.components.find? name =
      if name = Health.statusPublisher then
        some (publisherHealth now engine.publisher.lastSummary)
      else if name = Health.predictionManager then
        some (managerHealth now engine.manager.started)
      else if name = Health.workloadResolver then
        some (engine.cacheHealth now).2
      else if name = Health.metricsRepository then
        some (engine.cacheHealth now).1
      else daemon.health.components.find? name := by
  simp only [watchHealth, running, note, Health.setStarted,
    Health.find?_update]

theorem started_watchHealth {daemon : Daemon σ α} {engine : Engine σ α}
    (running : daemon.engine? = some engine) (now : Instant) :
    (daemon.watchHealth now).health.started = engine.manager.started := by
  simp only [watchHealth, running, Health.setStarted]

theorem publisherHealth_ne_unhealthy (now : Instant)
    (summary : Option Publisher.Summary) :
    (publisherHealth now summary).status ≠ .unhealthy := by
  unfold publisherHealth
  split
  · nofun
  · split <;> nofun

theorem mem_statuses_iff {repository : Repository α}
    {status : Cache.Status} :
    status ∈ repository.statuses.map (·.2) ↔
      ∃ source cache, repository.caches.find? source = some cache ∧
        cache.status = status := by
  simp only [Repository.statuses, List.map_map, List.mem_map,
    SortedMap.find?_eq_some_iff]
  constructor
  · rintro ⟨⟨source, cache⟩, member, same⟩
    exact ⟨source, cache, member, same⟩
  · rintro ⟨source, cache, member, same⟩
    exact ⟨⟨source, cache⟩, member, same⟩

theorem told_of_reflects {τ : Type} {cache : Cache τ}
    {outcomes : List (Except String τ)} (reflects : cache.Reflects outcomes)
    (counted : cache.status.consecutiveFailures ≠ 0) :
    cache.status.lastError.isSome = true := by
  apply reflects.error
  intro none
  apply counted
  change cache.consecutiveFailures = 0
  rw [reflects.failures, none]
  rfl

variable [Analytic α]

/-- What is known of a daemon after some events. -/
structure Tracks (config : Config α) (events : List (Event α))
    (daemon : Daemon σ α) (engine : Engine σ α) : Prop where
  config_eq : daemon.config = config
  running : daemon.engine? = some engine
  sources : ∀ source, source ∈ config.sources ↔
    (engine.repository.caches.find? source).isSome = true
  usage : ∀ source cache,
    engine.repository.caches.find? source = some cache →
      cache.Reflects (usageHistory config source events)
  cluster : engine.resolver.cache.Reflects (clusterHistory config events)
  viewed : engine.manager.started = true →
    engine.repository.isSynced = true ∧ engine.resolver.isSynced = true
  /-- The store is healthy, and so is all that ticks know nothing of. -/
  stored : ∀ name component,
    daemon.health.components.find? name = some component →
      name ∉ [Health.metricsRepository, Health.workloadResolver,
        Health.predictionManager, Health.statusPublisher] →
        component.status ≠ .unhealthy
  ready : daemon.health.started = true →
    engine.manager.started = true ∧ daemon.health.status ≠ .unhealthy

section

variable {config : Config α} {events : List (Event α)}
  {daemon : Daemon σ α} {engine : Engine σ α}

/-- What a tick after the start says of the sources. -/
theorem Tracks.usageHealth (tracks : Tracks config events daemon engine)
    (started : engine.manager.started = true) (now : Instant) :
    (engine.cacheHealth now).1.status =
      if ∃ source ∈ config.sources,
          Troubled (usageHistory config source events) then .degraded
      else .healthy := by
  obtain ⟨source, cache, known, filled⟩ :=
    Repository.isSynced_iff.1 (tracks.viewed started).1
  have synced : ∃ status ∈ engine.repository.statuses.map (·.2),
      status.synced = true :=
    ⟨cache.status, mem_statuses_iff.2 ⟨source, cache, known, rfl⟩, filled⟩
  have told : ∀ status ∈ engine.repository.statuses.map (·.2),
      status.consecutiveFailures ≠ 0 → status.lastError.isSome = true := by
    intro status member counted
    obtain ⟨other, held, found, rfl⟩ := mem_statuses_iff.1 member
    exact told_of_reflects (tracks.usage other held found) counted
  have quiet : (∀ status ∈ engine.repository.statuses.map (·.2),
        status.synced = true ∧ status.consecutiveFailures = 0) ↔
      ¬ ∃ source ∈ config.sources,
        Troubled (usageHistory config source events) := by
    constructor
    · rintro all ⟨other, listed, troubled⟩
      obtain ⟨held, found⟩ := Option.isSome_iff_exists.1
        ((tracks.sources other).1 listed)
      exact (tracks.usage other held found).troubled_iff.1 troubled
        (all _ (mem_statuses_iff.2 ⟨other, held, found, rfl⟩))
    · intro untroubled status member
      obtain ⟨other, held, found, rfl⟩ := mem_statuses_iff.1 member
      by_contra failing
      refine untroubled ⟨other, (tracks.sources other).2 ?_,
        (tracks.usage other held found).troubled_iff.2 failing⟩
      rw [found]
      rfl
  rw [Engine.cacheHealth, Health.Component.ofCaches_of_synced now synced told]
  simp only [quiet, ite_not]

/-- What a tick after the start says of the cluster. -/
theorem Tracks.clusterHealth (tracks : Tracks config events daemon engine)
    (started : engine.manager.started = true) (now : Instant) :
    (engine.cacheHealth now).2.status =
      if Troubled (clusterHistory config events) then .degraded
      else .healthy := by
  have synced : ∃ status ∈ [engine.resolver.cache.status],
      status.synced = true :=
    ⟨_, List.mem_singleton_self _, (tracks.viewed started).2⟩
  have told : ∀ status ∈ [engine.resolver.cache.status],
      status.consecutiveFailures ≠ 0 → status.lastError.isSome = true := by
    intro status member
    rw [List.mem_singleton.1 member]
    exact told_of_reflects tracks.cluster
  have quiet : (∀ status ∈ [engine.resolver.cache.status],
        status.synced = true ∧ status.consecutiveFailures = 0) ↔
      ¬ Troubled (clusterHistory config events) := by
    rw [tracks.cluster.troubled_iff, not_not, List.forall_mem_singleton]
  rw [Engine.cacheHealth, Health.Component.ofCaches_of_synced now synced told]
  simp only [quiet, ite_not]

/-- At a tick after the start no component is unhealthy. -/
theorem Tracks.operational (tracks : Tracks config events daemon engine)
    (started : engine.manager.started = true) (now : Instant) :
    (daemon.watchHealth now).health.status ≠ .unhealthy := by
  rw [Health.status_ne_unhealthy_iff]
  intro name component known
  rw [find?_watchHealth tracks.running] at known
  split at known
  · cases known
    exact publisherHealth_ne_unhealthy now _
  split at known
  · cases known
    rw [started]
    nofun
  split at known
  · cases known
    rw [tracks.clusterHealth started]
    split <;> nofun
  split at known
  · cases known
    rw [tracks.usageHealth started]
    split <;> nofun
  · refine tracks.stored name component known ?_
    simp only [List.mem_cons, List.not_mem_nil, or_false]
    tauto

variable [CheckpointStore σ α]

/-- An event is tracked, and takes back neither the start of the manager nor
that the health tells of it. -/
theorem Tracks.handle (tracks : Tracks config events daemon engine)
    (event : Event α) :
    ∃ next, Tracks config (events ++ [event]) (daemon.handle event) next ∧
      (engine.manager.started = true → next.manager.started = true) ∧
      (daemon.health.started = true →
        (daemon.handle event).health.started = true) := by
  obtain ⟨same, next, running, refreshed⟩ :=
    refreshed_handle tracks.running event
  rw [tracks.config_eq] at refreshed same
  refine ⟨next, {
    config_eq := same
    running
    sources := ?_
    usage := ?_
    cluster := ?_
    viewed := ?_
    stored := ?_
    ready := ?_ }, refreshed.kept, ?_⟩
  · intro source
    rw [refreshed.usage, Option.isSome_map]
    exact tracks.sources source
  · intro source cache known
    rw [refreshed.usage] at known
    obtain ⟨earlier, held, rfl⟩ := Option.map_eq_some_iff.1 known
    rw [usageHistory_concat]
    exact (tracks.usage source earlier held).taken _ _
  · rw [refreshed.cluster, clusterHistory_concat]
    exact tracks.cluster.taken _ _
  · intro started
    have synced : engine.repository.isSynced = true ∧
        engine.resolver.isSynced = true := by
      rcases refreshed.started started with earlier | synced
      · exact tracks.viewed earlier
      · exact synced
    exact ⟨refreshed.isSynced_repository synced.1,
      refreshed.isSynced_resolver synced.2⟩
  · rcases health_handle daemon event with ⟨network, rfl⟩ | unchanged
    · intro name component known unwatched
      change (daemon.watchHealth network.now).health.components.find? name =
        some component at known
      rw [find?_watchHealth tracks.running] at known
      simp only [List.mem_cons, List.not_mem_nil, or_false,
        not_or] at unwatched
      simp only [unwatched, if_false] at known
      exact tracks.stored name component known (by simpa using unwatched)
    · rw [unchanged]
      exact tracks.stored
  · rcases health_handle daemon event with ⟨network, rfl⟩ | unchanged
    · intro ready
      change (daemon.watchHealth network.now).health.started = true at ready
      rw [started_watchHealth tracks.running] at ready
      exact ⟨refreshed.kept ready, tracks.operational ready network.now⟩
    · rw [unchanged]
      intro ready
      exact ⟨refreshed.kept (tracks.ready ready).1, (tracks.ready ready).2⟩
  · intro ready
    rcases health_handle daemon event with ⟨network, rfl⟩ | unchanged
    · exact (started_watchHealth tracks.running network.now).trans
        (tracks.ready ready).1
    · rw [unchanged]
      exact ready

/-- A run is tracked, and takes back neither of the two. -/
theorem Tracks.handleAll (tracks : Tracks config events daemon engine)
    (later : List (Event α)) :
    ∃ last, Tracks config (events ++ later) (daemon.handleAll later) last ∧
      (engine.manager.started = true → last.manager.started = true) ∧
      (daemon.health.started = true →
        (daemon.handleAll later).health.started = true) := by
  induction later generalizing events daemon engine with
  | nil =>
      rw [List.append_nil]
      exact ⟨engine, tracks, id, id⟩
  | cons event later induction =>
      obtain ⟨next, step, starts, tells⟩ := tracks.handle event
      obtain ⟨last, rest, started, told⟩ := induction step
      rw [List.append_assoc] at rest
      exact ⟨last, rest, fun before => started (starts before),
        fun before => told (tells before)⟩

end

theorem answer_healthz (daemon : Daemon σ α) :
    (daemon.answer "/healthz").status =
      if daemon.health.status = .unhealthy then 503 else 200 := by
  change (Router.health daemon.health).status = _
  unfold Router.health
  cases daemon.health.status <;> rfl

theorem answer_readyz (daemon : Daemon σ α) :
    (daemon.answer "/readyz").status =
      if daemon.health.started = true ∧ daemon.health.status ≠ .unhealthy
      then 200 else 503 := by
  change (Router.readiness daemon.health).status = _
  unfold Router.readiness Health.readiness
  cases daemon.health.started <;> cases daemon.health.status <;> rfl

theorem healthy_registerAll {health : Health} {now : Instant}
    (fresh : health.components = ∅) {name : String}
    {component : Health.Component}
    (known : (health.registerAll now).components.find? name =
      some component) : component.status ≠ .unhealthy := by
  simp only [Health.registerAll, Health.componentNames, List.foldl_cons,
    List.foldl_nil, Health.register, Health.find?_update, fresh,
    SortedMap.find?_empty] at known
  have same : component = .healthy now := by
    split_ifs at known <;> exact (Option.some.inj known).symm
  rw [same]
  nofun

/-- A daemon whose directory can be created begins with an engine and a
healthy store. -/
theorem tracks_inDirectory [Checkpoint.Diagnosis] {config : Config α}
    (checked : config.check = .ok ()) {directory made : Directory}
    (created : directory.create = .ok made) (begun : Instant) :
    Tracks config [] (inDirectory config begun directory)
      (config.engine made) := by
  have built : inDirectory config begun directory =
      build config begun none made := by
    rw [inDirectory, created]
  rw [built, build, checked]
  have empty : ∀ source cache,
      (config.engine made).repository.caches.find? source = some cache →
        cache = .empty := by
    intro source cache known
    obtain ⟨configured, -, same⟩ :=
      List.mem_map.1 (SortedMap.mem_of_find?_ofList known)
    exact (Prod.mk.inj same).2.symm
  exact {
    config_eq := rfl
    running := rfl
    sources := fun source => Repository.isSome_find?_ofSources.symm
    usage := by
      intro source cache known
      rw [empty source cache known]
      exact Cache.reflects_empty
    cluster := Cache.reflects_empty
    viewed := nofun
    stored := by
      intro name component known _
      rw [Health.find?_update] at known
      split at known
      · cases known
        nofun
      · exact healthy_registerAll rfl known
    ready := nofun }

/-- As long as its manager has not started, a daemon whose directory could be
created is not ready.  After the start no outage makes it unhealthy or
unready, at no tick and between them neither; and at a tick the components of
the sources and of the cluster are degraded exactly if there was no success
yet, or failures since the last one that the counter tells. -/
theorem watched_health [Checkpoint.Diagnosis] {config : Config α}
    (checked : config.check = .ok ()) {directory made : Directory}
    (created : directory.create = .ok made) (begun : Instant)
    (events : List (Event α)) (network : Network) :
    let before := (inDirectory config begun directory).handleAll events
    let daemon := (before.perform network .watchHealth).1
    ∃ engine, before.engine? = some engine ∧
      (engine.manager.started = false →
        (daemon.answer "/readyz").status = 503) ∧
      (engine.manager.started = true →
        (∀ later,
          let last := daemon.handleAll later
          last.health.status ≠ .unhealthy ∧
            (last.answer "/healthz").status = 200 ∧
            (last.answer "/readyz").status = 200) ∧
        (daemon.health.components.find? Health.metricsRepository).map
            Health.Component.status =
          some (if ∃ source ∈ config.sources,
              Troubled (usageHistory config source events) then .degraded
            else .healthy) ∧
        (daemon.health.components.find? Health.workloadResolver).map
            Health.Component.status =
          some (if Troubled (clusterHistory config events) then .degraded
            else .healthy)) := by
  intro before daemon
  obtain ⟨engine, tracks, -⟩ :=
    (tracks_inDirectory checked created begun).handleAll events
  rw [List.nil_append] at tracks
  have ticked : daemon = before.watchHealth network.now := rfl
  have watched : daemon.health.started = engine.manager.started :=
    started_watchHealth tracks.running network.now
  refine ⟨engine, tracks.running, ?_, ?_⟩
  · intro waiting
    rw [answer_readyz, watched, waiting]
    rfl
  · intro started
    refine ⟨?_, ?_, ?_⟩
    · intro later last
      obtain ⟨_, tick, -⟩ := tracks.handle (.task network .watchHealth)
      obtain ⟨_, tracked, -, told⟩ := tick.handleAll later
      have ready : last.health.started = true :=
        told (watched.trans started)
      have operational : last.health.status ≠ .unhealthy :=
        (tracked.ready ready).2
      rw [answer_healthz, answer_readyz, if_neg operational,
        if_pos ⟨ready, operational⟩]
      exact ⟨operational, rfl, rfl⟩
    · rw [ticked, find?_watchHealth tracks.running,
        ← tracks.usageHealth started network.now]
      rfl
    · rw [ticked, find?_watchHealth tracks.running,
        ← tracks.clusterHealth started network.now]
      rfl

/-- A daemon whose one source is the metrics API. -/
def metricsOnly : Config Float :=
  { port := 8080
    profilePeriod := 60
    concurrentCycles := 8
    usagePeriod := 120
    clusterPeriod := 60
    publishPeriod := 300
    checkpointDirectory := Config.standardDirectory
    checkpointGrace := 3600
    containerGrace := 600
    garbagePeriod := 600
    halfLife := 288
    metricsApi := true
    queryBackends := []
    extendedKinds := []
    statusTarget := Config.standardTarget
    profiles := [] }

def newDirectory : Directory := ⟨Config.standardDirectory, .absent⟩

/-- No server is reached. -/
def unreached : Network :=
  { now := ⟨60, 0⟩, cluster := fun _ => none, backend := fun _ _ => none }

/-- Both caches are filled, and the manager starts. -/
def filled : List (Event Float) :=
  [.usage ⟨10, 0⟩ .metricsApi (.ok ∅), .cluster ⟨10, 0⟩ (.ok .empty),
    .task unreached (.engine .runProfiles)]

/-- While no server is reached the daemon stays ready, and its components are
degraded. -/
theorem outage_endured :
    let events := filled ++ [.task unreached (.engine .refreshUsage),
      .task unreached (.engine .refreshCluster)]
    let before := (inDirectory metricsOnly ⟨0, 0⟩ newDirectory).handleAll
      events
    let daemon := (before.perform unreached .watchHealth).1
    metricsOnly.check = .ok () ∧
      newDirectory.create = .ok (newDirectory.withNodes ∅) ∧
      (daemon.answer "/readyz").status = 200 ∧
      (daemon.health.components.find? Health.metricsRepository).map
        Health.Component.status = some .degraded ∧
      (daemon.health.components.find? Health.workloadResolver).map
        Health.Component.status = some .degraded := by
  intro events before daemon
  have checked : metricsOnly.check = .ok () := rfl
  have created : newDirectory.create = .ok (newDirectory.withNodes ∅) := rfl
  obtain ⟨engine, running, -, after⟩ :=
    watched_health checked created ⟨0, 0⟩ events unreached
  have started : before.engine?.map (fun engine => engine.manager.started) =
      some true := by
    decide +kernel
  rw [running] at started
  obtain ⟨ready, usage, cluster⟩ := after (Option.some.inj started)
  obtain ⟨-, -, answered⟩ := ready []
  have usageTroubled : ∃ source ∈ metricsOnly.sources,
      Troubled (usageHistory metricsOnly source events) := by
    decide +kernel
  have clusterTroubled : Troubled (clusterHistory metricsOnly events) := by
    decide +kernel
  rw [if_pos usageTroubled] at usage
  rw [if_pos clusterTroubled] at cluster
  exact ⟨checked, created, answered, usage, cluster⟩

/-- The events of an outage of the cluster. -/
def listingsFail (count : Nat) : List (Event Float) :=
  List.replicate count (.cluster ⟨60, 0⟩ (.error "timeout"))

theorem clusterHistory_listingsFail (count : Nat) :
    clusterHistory metricsOnly (filled ++ listingsFail count) =
      [.ok .empty] ++ List.replicate count (.error "timeout") := by
  rw [clusterHistory, List.filterMap_append, listingsFail,
    List.filterMap_replicate]
  rfl

/-- After full turns of the counter a tick finds the resolver healthy. -/
theorem healthy_listingsFail {count : Nat} (turns : UInt32.size ∣ count) :
    let before := (inDirectory metricsOnly ⟨0, 0⟩ newDirectory).handleAll
      (filled ++ listingsFail count)
    let daemon := (before.perform unreached .watchHealth).1
    daemon.health.started = true ∧
      (daemon.health.components.find? Health.workloadResolver).map
        Health.Component.status = some .healthy := by
  intro before daemon
  have begun : ((inDirectory metricsOnly ⟨0, 0⟩ newDirectory).handleAll
      filled).engine?.map (fun engine => engine.manager.started) =
        some true := by
    decide +kernel
  have checked : metricsOnly.check = .ok () := rfl
  have created : newDirectory.create = .ok (newDirectory.withNodes ∅) := rfl
  obtain ⟨engine, filledTracks, -⟩ :=
    (tracks_inDirectory checked created ⟨0, 0⟩).handleAll filled
  rw [filledTracks.running] at begun
  obtain ⟨last, tracks, kept, -⟩ :=
    filledTracks.handleAll (listingsFail count)
  have started : last.manager.started = true :=
    kept (Option.some.inj begun)
  rw [List.nil_append, ← handleAll_append] at tracks
  have untroubled : ¬ Troubled
      (clusterHistory metricsOnly (filled ++ listingsFail count)) := by
    rw [clusterHistory_listingsFail, Troubled, failuresSince_failures]
    rintro (never | counted)
    · cases never (.ok .empty) List.mem_cons_self
    · refine counted ?_
      rw [show failuresSince [(.ok .empty : Except String Cluster)] = 0
        from rfl, Nat.zero_add]
      exact turns
  have reported := tracks.clusterHealth started unreached.now
  rw [if_neg untroubled] at reported
  have ticked : daemon = before.watchHealth unreached.now := rfl
  refine ⟨(started_watchHealth tracks.running unreached.now).trans started,
    ?_⟩
  rw [ticked, find?_watchHealth tracks.running, ← reported]
  rfl

/-- The last 4294967296 listings of the cluster have failed, and a tick finds
the resolver healthy. -/
theorem outage_overlooked :
    let events := filled ++ listingsFail UInt32.size
    let before := (inDirectory metricsOnly ⟨0, 0⟩ newDirectory).handleAll
      events
    let daemon := (before.perform unreached .watchHealth).1
    clusterHistory metricsOnly events =
        [.ok .empty] ++ List.replicate UInt32.size (.error "timeout") ∧
      daemon.health.started = true ∧
      (daemon.health.components.find? Health.workloadResolver).map
        Health.Component.status = some .healthy :=
  ⟨clusterHistory_listingsFail _, healthy_listingsFail (Nat.dvd_refl _)⟩

end Daemon

end UsageForecast
