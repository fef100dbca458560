import UsageForecast.Daemon.Tasks
import UsageForecast.Proofs.CacheHistory

/-!
# What happens to a daemon

A daemon goes through events: its tasks, under whatever the network answers at
the time, and the ends of single fetches.  Each of them has the effect of a
step of the engine that fetches what the event brings.
-/

namespace UsageForecast

namespace Engine

variable {σ α : Type}

/-- What a task fetches from a source. -/
def World.usage? (world : World α) :
    Task → Source → Option (Except String (UsageSnapshot α))
  | .refreshUsage, source => some (world.fetch source)
  | _, _ => none

/-- What a task finds out about the cluster. -/
def World.cluster? (world : World α) : Task → Option (Except String Cluster)
  | .refreshCluster => some world.cluster
  | _ => none

/-- Fetches from distinct sources concern a cache each. -/
theorem refreshed_foldl (now : Instant)
    (fetch : Source → Except String (UsageSnapshot α))
    {sources : List Source} (distinct : sources.Nodup)
    (engine : Engine σ α) :
    let next := sources.foldl (fun engine source =>
      (engine.refreshUsage now source (fetch source)).1) engine
    next.manager = engine.manager ∧
      Refreshed now (fun source =>
        if source ∈ sources then some (fetch source) else none) none
        engine next := by
  induction sources generalizing engine with
  | nil => exact ⟨rfl, .refl engine now⟩
  | cons first sources induction =>
      obtain ⟨fresh, distinct⟩ := List.nodup_cons.1 distinct
      have head := refreshed_refreshUsage engine now first (fetch first)
      have manager := (refreshUsage_frame engine now first
        (fetch first)).1
      obtain ⟨kept, rest⟩ := induction distinct
        (engine.refreshUsage now first (fetch first)).1
      refine ⟨kept.trans manager, ?_, ?_, ?_, ?_⟩
      · intro source
        rw [List.foldl_cons, rest.usage, head.usage, Option.map_map]
        congr 1
        funext cache
        by_cases same : source = first
        · subst same
          simp [fresh, Cache.taken]
        · simp [same, Cache.taken]
      · rw [List.foldl_cons, rest.cluster, head.cluster]
        rfl
      · rw [List.foldl_cons, kept, manager]
        exact id
      · rw [List.foldl_cons, kept, manager]
        exact .inl

theorem refreshed_refreshAllUsage (engine : Engine σ α) (now : Instant)
    (fetch : Source → Except String (UsageSnapshot α)) :
    Refreshed now (fun source => some (fetch source)) none engine
      (engine.refreshAllUsage now fetch) := by
  obtain ⟨-, refreshed⟩ := refreshed_foldl now fetch
    engine.repository.caches.keys_nodup engine
  refine ⟨fun source => ?_, refreshed.cluster, refreshed.kept,
    refreshed.started⟩
  cases known : engine.repository.caches.find? source with
  | none =>
      exact (refreshed.usage source).trans (by rw [known]; rfl)
  | some cache =>
      have listed : source ∈ engine.repository.caches.keys :=
        SortedMap.mem_keys_of_find? known
      refine (refreshed.usage source).trans ?_
      rw [known]
      simp only [if_pos listed]

variable [Analytic α] [CheckpointStore σ α]

/-- A task fetches what it is there for, and starts the manager only if the
caches are synced. -/
theorem refreshed_perform {engine : Engine σ α} {world : World α}
    {task : Task} {answer : Engine σ α × List (Publisher.Write × Bool)}
    (performed : engine.perform world task = .ok answer) :
    Refreshed world.now (world.usage? task) (world.cluster? task) engine
      answer.1 := by
  cases task with
  | refreshUsage =>
      cases performed
      exact refreshed_refreshAllUsage engine world.now world.fetch
  | refreshCluster =>
      cases performed
      exact refreshed_refreshCluster engine world.now world.cluster
  | runProfiles =>
      unfold perform at performed
      dsimp only at performed
      split at performed
      · cases performed
        exact (refreshed_tryStart engine world.now).continue rfl rfl
          (Manager.started_runRound _ _ _ _ _ _ _)
      · cases performed
        exact refreshed_tryStart engine world.now
  | collectGarbage =>
      unfold perform at performed
      dsimp only at performed
      split at performed
      · obtain ⟨collected, removed, rfl⟩ := map_eq_ok_iff.1 performed
        exact refreshed_collectGarbage removed
      · cases performed
        exact .refl engine world.now
  | publish =>
      cases performed
      exact (Refreshed.refl engine world.now).continue rfl rfl rfl

/-- A loop that has ended, or ends, fetches nothing. -/
theorem Loops.refreshed_perform (loops : Loops σ α) (world : World α)
    (task : Task) :
    Refreshed world.now (world.usage? task) (world.cluster? task)
      loops.engine (loops.perform world task).1.engine := by
  have idle (ofManager : task.ofManager = true) :
      Refreshed world.now (world.usage? task) (world.cluster? task)
        loops.engine loops.engine := by
    cases task with
    | refreshUsage => cases ofManager
    | refreshCluster => cases ofManager
    | runProfiles => exact .refl _ _
    | collectGarbage => exact .refl _ _
    | publish => exact .refl _ _
  unfold Loops.perform
  split
  next ended => exact idle (Bool.and_eq_true_iff.1 ended).2
  next =>
    cases performed : loops.engine.perform world task with
    | ok answer => exact Engine.refreshed_perform performed
    | error crash =>
        apply idle
        cases task with
        | refreshUsage => cases performed
        | refreshCluster => cases performed
        | runProfiles => rfl
        | collectGarbage => rfl
        | publish => cases performed

end Engine

namespace Daemon

variable {σ α : Type}

/-- What happens to a daemon: one of its tasks is due, or a fetch has ended,
whatever its outcome. -/
inductive Event (α : Type) where
  | task (network : Network) (task : Task)
  | usage (now : Instant) (source : Source)
      (outcome : Except String (UsageSnapshot α))
  | cluster (now : Instant) (outcome : Except String Cluster)

namespace Event

def time : Event α → Instant
  | .task network _ => network.now
  | .usage now _ _ => now
  | .cluster now _ => now

variable [Analytic α]

/-- What an event brings from a source. -/
def usage? (config : Config α) (source : Source) :
    Event α → Option (Except String (UsageSnapshot α))
  | .task network (.engine due) =>
      (world config network).usage? due source
  | .task _ _ => none
  | .usage _ other outcome => if source = other then some outcome else none
  | .cluster .. => none

/-- What an event tells about the cluster. -/
def cluster? (config : Config α) : Event α → Option (Except String Cluster)
  | .task network (.engine due) => (world config network).cluster? due
  | .task _ _ => none
  | .usage .. => none
  | .cluster _ outcome => some outcome

end Event

def change (daemon : Daemon σ α) (change : Engine σ α → Engine σ α) :
    Daemon σ α :=
  { daemon with
    loops := daemon.loops.map fun loops =>
      { loops with engine := change loops.engine } }

variable [Analytic α]

/-- What was fetched from a source. -/
def usageHistory (config : Config α) (source : Source)
    (events : List (Event α)) : List (Except String (UsageSnapshot α)) :=
  events.filterMap (Event.usage? config source)

/-- What was found out about the cluster. -/
def clusterHistory (config : Config α) (events : List (Event α)) :
    List (Except String Cluster) :=
  events.filterMap (Event.cluster? config)

theorem usageHistory_concat (config : Config α) (events : List (Event α))
    (source : Source) (event : Event α) :
    usageHistory config source (events ++ [event]) =
      usageHistory config source events ++
        (event.usage? config source).toList := by
  rw [usageHistory, List.filterMap_append, usageHistory]
  cases seen : event.usage? config source <;> simp [seen]

theorem clusterHistory_concat (config : Config α)
    (events : List (Event α)) (event : Event α) :
    clusterHistory config (events ++ [event]) =
      clusterHistory config events ++ (event.cluster? config).toList := by
  rw [clusterHistory, List.filterMap_append, clusterHistory]
  cases seen : event.cluster? config <;> simp [seen]

variable [CheckpointStore σ α]

def handle (daemon : Daemon σ α) : Event α → Daemon σ α
  | .task network task => (daemon.perform network task).1
  | .usage now source outcome => daemon.change fun engine =>
      (engine.refreshUsage now source outcome).1
  | .cluster now outcome => daemon.change fun engine =>
      (engine.refreshCluster now outcome).1

def handleAll (daemon : Daemon σ α) (events : List (Event α)) :
    Daemon σ α :=
  events.foldl handle daemon

theorem handleAll_append (daemon : Daemon σ α)
    (first later : List (Event α)) :
    daemon.handleAll (first ++ later) =
      (daemon.handleAll first).handleAll later :=
  List.foldl_append

theorem registerAll_frame (engine : Engine σ α) (now : Instant)
    (profiles : List (ProfileKey × Spec α)) :
    let next := registerAll engine now profiles
    next.repository = engine.repository ∧
      next.resolver = engine.resolver ∧
      next.manager.started = engine.manager.started := by
  induction profiles generalizing engine with
  | nil => exact ⟨rfl, rfl, rfl⟩
  | cons profile profiles induction =>
      obtain ⟨key, spec⟩ := profile
      unfold registerAll
      split
      next next answer registered =>
        obtain ⟨repository, resolver, started⟩ :=
          Engine.started_register registered
        obtain ⟨repositories, resolvers, starts⟩ := induction next
        exact ⟨repositories.trans repository, resolvers.trans resolver,
          starts.trans started⟩
      next => exact ⟨rfl, rfl, rfl⟩

/-- What an event does to the engine of a daemon. -/
theorem refreshed_handle {daemon : Daemon σ α} {engine : Engine σ α}
    (running : daemon.engine? = some engine) (event : Event α) :
    (daemon.handle event).config = daemon.config ∧
      ∃ next, (daemon.handle event).engine? = some next ∧
        Engine.Refreshed event.time
          (fun source => event.usage? daemon.config source)
          (event.cluster? daemon.config) engine next := by
  obtain ⟨loops, held, rfl⟩ := Option.map_eq_some_iff.1 running
  cases event with
  | usage now source outcome =>
      refine ⟨rfl, _, ?_,
        Engine.refreshed_refreshUsage loops.engine now source outcome⟩
      simp only [handle, change, engine?, held, Option.map_some]
  | cluster now outcome =>
      refine ⟨rfl, _, ?_,
        Engine.refreshed_refreshCluster loops.engine now outcome⟩
      simp only [handle, change, engine?, held, Option.map_some]
  | task network task =>
      cases task with
      | watchHealth =>
          simp only [handle, perform, watchHealth, running]
          exact ⟨rfl, _, running, .refl loops.engine network.now⟩
      | registerProfiles =>
          simp only [handle, perform, registerProfiles, held]
          split
          · exact ⟨rfl, _, running, .refl loops.engine network.now⟩
          · obtain ⟨repository, resolver, started⟩ := registerAll_frame
              loops.engine network.now daemon.config.resolvedProfiles
            exact ⟨rfl, _, rfl, (Engine.Refreshed.refl loops.engine
              network.now).continue repository resolver started⟩
      | engine task =>
          simp only [handle, perform, held]
          exact ⟨trivial, _, rfl, loops.refreshed_perform
            (world daemon.config network) task⟩

/-- Only a tick changes what is known about the health. -/
theorem health_handle (daemon : Daemon σ α) (event : Event α) :
    (∃ network, event = .task network .watchHealth) ∨
      (daemon.handle event).health = daemon.health := by
  cases event with
  | usage now source outcome => exact .inr rfl
  | cluster now outcome => exact .inr rfl
  | task network task =>
      cases task with
      | watchHealth => exact .inl ⟨network, rfl⟩
      | registerProfiles =>
          refine .inr ?_
          simp only [handle, perform, registerProfiles]
          split
          · rfl
          · split <;> rfl
      | engine task =>
          refine .inr ?_
          simp only [handle, perform]
          split <;> rfl

end Daemon

end UsageForecast
