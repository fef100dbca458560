import UsageForecast.Checkpoint.Directory
import UsageForecast.Config.Basic
import UsageForecast.Engine.Tasks
import UsageForecast.Router
import UsageForecast.Usage.QueryClient

/-!
# The daemon

The daemon builds an engine from its configuration and keeps the health of
its components up to date.  If the engine cannot be built, the daemon still
answers questions about its health.
-/

namespace UsageForecast

namespace Config

/-- Why no engine can be built from a configuration. -/
inductive BuildFault where
  | noBackends
  | backend (name : String) (fault : BackendFault)
deriving DecidableEq, Repr, Inhabited

def BuildFault.message : BuildFault → String
  | .noBackends => "No usage backends configured"
  | .backend name fault =>
      s!"Invalid Prometheus backend {name}: {fault.explain}"

variable {α : Type}

/-- Check the addresses of the query back ends, and that there is a source at
all. -/
def check (config : Config α) : Except BuildFault Unit := do
  config.queryBackends.forM fun backend => do
    let _ ← backend.queryPath.mapError (BuildFault.backend backend.name)
  if config.sources.isEmpty then
    throw .noBackends

def engineSettings (config : Config α) : Engine.Settings α :=
  { profiler := ⟨config.containerGrace, config.halfLife⟩
    checkpointGrace := config.checkpointGrace
    concurrentCycles := config.concurrentCycles }

def periods (config : Config α) : Engine.Periods :=
  { usage := config.usagePeriod
    cluster := config.clusterPeriod
    profiles := config.profilePeriod
    garbage := config.garbagePeriod
    publishing := config.publishPeriod }

def engine {σ : Type} (config : Config α) (store : σ) : Engine σ α :=
  .create config.engineSettings config.sources
    (config.extendedKinds.map ApiKind.kind) store

/-- The query back end of a name; of several, the last. -/
def backend? (config : Config α) (name : String) : Option QueryBackend :=
  config.queryBackends.reverse.find? fun backend => backend.name == name

end Config

/-- The daemon with the health of its components. -/
structure Daemon (σ α : Type) where
  config : Config α
  health : Health
  /-- The engine with its loops, if one could be built. -/
  loops : Option (Engine.Loops σ α)
  /-- Whether the configured profiles have been registered. -/
  registered : Bool

namespace Daemon

variable {σ α : Type}

/-- Build the daemon.  A directory of checkpoints that cannot be created makes
the store unhealthy, and only that. -/
def build (config : Config α) (now : Instant)
    (unusable : Option String) (store : σ) : Daemon σ α :=
  let health := Health.initial.registerAll now
  match config.check with
  | .error fault =>
      { config
        health := health.update Health.predictionManager
          (.unhealthy now fault.message)
        loops := none
        registered := false }
  | .ok () =>
      { config
        health := health.update Health.checkpointStore
          (match unusable with
            | none => .healthy now
            | some reason => .unhealthy now reason)
        loops := some (.start (config.engine store))
        registered := config.profiles.isEmpty }

/-- Build the daemon over a directory, which is created if it is absent. -/
def inDirectory [Checkpoint.Diagnosis] (config : Config α) (now : Instant)
    (directory : Directory) : Daemon Directory α :=
  match directory.create with
  | .ok directory => build config now none directory
  | .error fault => build config now (some fault.cause.message) directory

def engine? (daemon : Daemon σ α) : Option (Engine σ α) :=
  daemon.loops.map Engine.Loops.engine

def note (daemon : Daemon σ α) (name : String)
    (component : Health.Component) : Daemon σ α :=
  { daemon with health := daemon.health.update name component }

/-- What the last scheduled round of publishing says about the publisher:
writes that all failed impair it. -/
def publisherHealth (now : Instant) :
    Option Publisher.Summary → Health.Component
  | none => .healthy now
  | some summary =>
      if 0 < summary.failed ∧ summary.written = 0 then
        .degraded now s!"{summary.failed} status writes failed"
      else
        .healthy now

def managerHealth (now : Instant) (started : Bool) : Health.Component :=
  if started then .healthy now
  else .degraded now "waiting for backends to sync"

/-- Take over the state of the engine into the health of the daemon. -/
def watchHealth (daemon : Daemon σ α) (now : Instant) : Daemon σ α :=
  match daemon.engine? with
  | none => daemon
  | some engine =>
      let (usage, cluster) := engine.cacheHealth now
      let started := engine.manager.started
      let watched :=
        (((daemon.note Health.metricsRepository usage).note
          Health.workloadResolver cluster).note
          Health.predictionManager (managerHealth now started)).note
          Health.statusPublisher
            (publisherHealth now engine.publisher.lastSummary)
      { watched with health := watched.health.setStarted started }

def answer [Scalar α] (daemon : Daemon σ α) (target : String) :
    Router.Answer :=
  let engine := daemon.engine?
  Router.answer daemon.health
    ((engine.map Engine.telemetry).getD .zero)
    (engine.map fun engine => engine.manager.toJson) target

variable [Analytic α] [CheckpointStore σ α]

/-- Register profiles in order.  A refused one is passed over; a defect ends
the registration. -/
def registerAll (engine : Engine σ α) (now : Instant) :
    List (ProfileKey × Spec α) → Engine σ α
  | [] => engine
  | (key, spec) :: rest =>
      match engine.register now key spec with
      | .ok (next, _) => registerAll next now rest
      | .error _ => engine

/-- Register the configured profiles once the manager has started. -/
def registerProfiles (daemon : Daemon σ α) (now : Instant) : Daemon σ α :=
  match daemon.loops with
  | none => daemon
  | some loops =>
      if daemon.registered || !loops.engine.manager.started then daemon
      else
        let engine :=
          registerAll loops.engine now daemon.config.resolvedProfiles
        { daemon with
          loops := some { loops with engine }
          registered := true }

end Daemon

end UsageForecast
