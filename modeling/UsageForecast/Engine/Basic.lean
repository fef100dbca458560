import UsageForecast.Health
import UsageForecast.Manager.Round
import UsageForecast.Publishing.Publisher

/-!
# The engine

The engine holds the usage repository, the resolver, the checkpoint store, the
manager and the publisher, and counts what they do.  What the outside world
answers comes in as values: the outcome of a fetch, the time, and whether a
write succeeds.
-/

namespace UsageForecast

structure Engine.Settings (α : Type) where
  profiler : Profiler.Settings α
  /-- For how many seconds the checkpoint of an unregistered profile is
  kept. -/
  checkpointGrace : Nat
  /-- How many cycles may run at once. -/
  concurrentCycles : Nat

/-- The components of a running daemon. -/
structure Engine (σ α : Type) where
  settings : Engine.Settings α
  repository : Repository α
  resolver : Resolver
  store : σ
  manager : Manager α
  publisher : Publisher
  telemetry : Telemetry

namespace Engine

variable {σ α : Type}

def create (settings : Settings α) (sources : List Source)
    (extendedKinds : List String) (store : σ) : Engine σ α :=
  { settings
    repository := .ofSources sources
    resolver := .initial extendedKinds
    store
    manager := .initial
    publisher := .initial
    telemetry := .zero }

/-- A new manager and a new publisher over the same caches and store. -/
def restart (engine : Engine σ α) : Engine σ α :=
  { engine with manager := .initial, publisher := .initial }

def countRefresh (engine : Engine σ α) (cache : String)
    (failed : Bool) : Engine σ α :=
  if failed then
    { engine with telemetry := engine.telemetry.addRefreshError cache }
  else
    engine

def refreshUsage (engine : Engine σ α) (now : Instant) (source : Source)
    (outcome : Except String (UsageSnapshot α)) :
    Engine σ α × Except Failure Unit :=
  let configured := engine.repository.caches.contains source
  let (repository, answer) := engine.repository.refresh now source outcome
  ({ engine with repository }.countRefresh source.display
      (configured && !outcome.isOk), answer)

def refreshCluster (engine : Engine σ α) (now : Instant)
    (outcome : Except String Cluster) : Engine σ α × Except Failure Unit :=
  let (resolver, answer) := engine.resolver.refresh now outcome
  ({ engine with resolver }.countRefresh Resolver.cacheName (!outcome.isOk),
    answer)

/-- Start the manager if the caches are ready. -/
def tryStart (engine : Engine σ α) : Engine σ α :=
  { engine with
    manager := engine.manager.tryStart engine.resolver engine.repository }

def unregister (engine : Engine σ α) (key : ProfileKey) :
    Except Failure (Engine σ α) := do
  let manager ← engine.manager.unregister key
  return { engine with
    manager
    telemetry := engine.telemetry.setProfiles manager.size }

def cacheHealth (engine : Engine σ α) (now : Instant) :
    Health.Component × Health.Component :=
  (.ofCaches now (engine.repository.statuses.map (·.2)),
    .ofCaches now [engine.resolver.cache.status])

/-- What a container used of a resource in each of some pods; malformed
values are counted. -/
def usage [Scalar α] (engine : Engine σ α) (source : Source)
    (resource : Resource) (container : String) (pods : List PodName) :
    Engine σ α × Except Failure (SortedMap PodName (Sample α)) :=
  match engine.repository.usage source resource container pods with
  | .error failure => (engine, .error failure)
  | .ok answer =>
      ({ engine with
          telemetry := engine.telemetry.addMalformedValues answer.malformed },
        .ok answer.samples)

def publish [Scalar α] (engine : Engine σ α)
    (write : Publisher.Write → Bool) : Engine σ α × Publisher.Round :=
  let round :=
    engine.publisher.publish engine.manager write engine.telemetry
  ({ engine with
      publisher := round.publisher
      telemetry := round.telemetry }, round)

variable [Analytic α] [CheckpointStore σ α]

/-- Register a profile or change the spec of a registered one. -/
def register (engine : Engine σ α) (now : Instant) (key : ProfileKey)
    (spec : Spec α) :
    Except Crash (Engine σ α × Except Failure Unit) := do
  match ← engine.manager.register engine.resolver now engine.store key spec
    with
  | .error failure => return (engine, .error failure)
  | .ok registration =>
      let manager := registration.manager
      let telemetry :=
        if registration.unreadable then engine.telemetry.addCheckpointError
        else engine.telemetry
      let telemetry :=
        if registration.created then telemetry.setProfiles manager.size
        else telemetry
      return ({ engine with manager, telemetry }, .ok ())

/-- Run every registered profile once; the hashes are those of the answers
that the cycles of the round get. -/
def runRound (engine : Engine σ α) (now : Instant)
    (hashes : Hashes := .equal) : Engine σ α × Manager.Summary :=
  let round := engine.manager.runRound engine.settings.profiler
    engine.resolver (engine.repository.seeded hashes) now engine.store
    engine.telemetry
  ({ engine with
      manager := round.manager
      store := round.store
      telemetry := round.telemetry }, round.summary)

/-- How many cycles of a round may save their checkpoints at once: as many as
get that far, up to the bound, which is at least one. -/
def concurrentSaves (engine : Engine σ α) (summary : Manager.Summary) : Nat :=
  min (max engine.settings.concurrentCycles 1) summary.succeeded

def collectGarbage (engine : Engine σ α) (now : Instant) :
    Except Crash (Engine σ α × Nat) := do
  let (store, removed) ← engine.manager.collectGarbage now
    engine.settings.checkpointGrace engine.store
  return ({ engine with store }, removed)

/-- Run one cycle of a profiler that is not registered. -/
def profile (engine : Engine σ α) (now : Instant) (profiler : Profiler α)
    (hashes : Hashes := .equal) :
    Engine σ α × Profiler α × Profiler.Outcome :=
  let cycle := profiler.profile engine.settings.profiler engine.resolver
    (engine.repository.seeded hashes) now engine.store
  ({ engine with
      store := cycle.store
      telemetry := Manager.countCycle engine.telemetry cycle },
    cycle.profiler, cycle.outcome)

/-- Restore a profiler that is not registered; says whether there was
something to restore. -/
def restore (engine : Engine σ α) (now : Instant) (profiler : Profiler α) :
    Except Crash (Engine σ α × Profiler α × Bool) := do
  let stored : Except Failure (Option (Checkpoint α)) :=
    CheckpointStore.load engine.store profiler.key
  let (restored, found) ← Manager.restoreFrom profiler now stored
  let telemetry :=
    if stored.isOk then engine.telemetry
    else engine.telemetry.addCheckpointError
  return ({ engine with telemetry }, restored, found)

end Engine

end UsageForecast
