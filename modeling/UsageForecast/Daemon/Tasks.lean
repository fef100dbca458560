import UsageForecast.Cluster.Listing
import UsageForecast.Daemon.Basic
import UsageForecast.Publishing.Delivery
import UsageForecast.Usage.PodMetrics

/-!
# The tasks of the daemon

The tasks of the engine, and the daemon's own beside them, with the requests
that they make of the cluster and the query back ends.
-/

namespace UsageForecast.Daemon

/-- The servers that a daemon talks to at a time, and the hashes by which
cycles of the time get their answers. -/
structure Network where
  now : Instant
  cluster : Http.Server
  backend : QueryBackend → Http.Server
  hashes : Hashes := .equal

inductive Task where
  | watchHealth
  | registerProfiles
  | engine (task : Engine.Task)
deriving DecidableEq, Repr, Inhabited

variable {σ α : Type}

/-- The period of health checks in seconds. -/
def watchPeriod : Nat := 10

/-- The period of attempts to register the configured profiles, in
seconds. -/
def registrationPeriod : Nat := 1

/-- The schedule of a daemon, in milliseconds.  Answers of back ends arrive
after the other tasks of their time. -/
def schedule (config : Config α) : Schedule Task :=
  let engine := config.periods.schedule.map fun (task, period) =>
    (Task.engine task, period)
  let (refreshes, others) := engine.partition fun (task, _) =>
    task == .engine .refreshUsage || task == .engine .refreshCluster
  [(.watchHealth, 1000 * watchPeriod),
    (.registerProfiles, 1000 * registrationPeriod)] ++ others ++ refreshes

variable [Analytic α]

def fetch (config : Config α) (network : Network) :
    Source → Http.Exchange BackendFault (UsageSnapshot α)
  | .metricsApi => PodMetrics.fetch network.cluster network.now
  | .prometheus name =>
      match config.backend? name with
      | some backend => backend.fetch (network.backend backend) network.now
      | none => .ofExcept (.error .queryPath)

def list (config : Config α) (network : Network) :
    Http.Exchange BackendFault Cluster :=
  Listing.cluster network.cluster config.extendedKinds

def deliver (config : Config α) (network : Network)
    (write : Publisher.Write) : Http.Exchange BackendFault Unit :=
  Delivery.deliver network.cluster config.statusTarget write.owner
    write.body.toJson

/-- The outcome of an exchange with the text of its failure. -/
def outcome {β : Type} (exchange : Http.Exchange BackendFault β) :
    Except String β :=
  exchange.outcome.mapError BackendFault.message

/-- The network as an engine sees it. -/
def world (config : Config α) (network : Network) : Engine.World α :=
  { now := network.now
    fetch := fun source => outcome (fetch config network source)
    cluster := outcome (list config network)
    write := fun write => (deliver config network write).outcome.isOk
    hashes := network.hashes }

def requests (config : Config α) (network : Network)
    (sources : List Source) (writes : List Publisher.Write) :
    Engine.Task → List Http.Request
  | .refreshUsage =>
      sources.flatMap fun source => (fetch config network source).requests
  | .refreshCluster => (list config network).requests
  | .publish =>
      writes.flatMap fun write => (deliver config network write).requests
  | .runProfiles => []
  | .collectGarbage => []

variable [CheckpointStore σ α]

/-- Perform a task, and tell which requests it made. -/
def perform (daemon : Daemon σ α) (network : Network) :
    Task → Daemon σ α × List Http.Request
  | .watchHealth => (daemon.watchHealth network.now, [])
  | .registerProfiles => (daemon.registerProfiles network.now, [])
  | .engine task =>
      match daemon.loops with
      | none => (daemon, [])
      | some loops =>
          let (next, writes) :=
            loops.perform (world daemon.config network) task
          ({ daemon with loops := some next },
            requests daemon.config network loops.engine.repository.sources
              (writes.map (·.1)) task)

end UsageForecast.Daemon
