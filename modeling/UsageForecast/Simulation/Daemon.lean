import UsageForecast.Daemon.Tasks

/-!
# A daemon in a described world

A simulation runs a daemon against a cluster whose answers are given as data;
no query back end can be reached.  Its loops run while the simulation
sleeps.
-/

namespace UsageForecast

/-- A daemon and its world. -/
structure DaemonSimulation (σ α : Type) where
  daemon : Daemon σ α
  now : Instant
  /-- What the cluster answers under each path. -/
  responses : SortedMap String Http.Response
  /-- The requests since the last report. -/
  requests : List Http.Request
  /-- The time of the running loops, in milliseconds since their start. -/
  elapsed : Option Nat

namespace DaemonSimulation

variable {σ α : Type}

def create (daemon : Daemon σ α) (now : Instant)
    (responses : SortedMap String Http.Response) : DaemonSimulation σ α :=
  ⟨daemon, now, responses, [], none⟩

def network (simulation : DaemonSimulation σ α) : Daemon.Network :=
  { now := simulation.now
    cluster := .ofResponses simulation.responses
    backend := fun _ => .unreachable }

/-- Start the loops; their first round is due at once. -/
def startLoops (simulation : DaemonSimulation σ α) :
    DaemonSimulation σ α :=
  { simulation with elapsed := some 0 }

def stopLoops (simulation : DaemonSimulation σ α) : DaemonSimulation σ α :=
  { simulation with elapsed := none }

def tick (simulation : DaemonSimulation σ α) : DaemonSimulation σ α :=
  let now := simulation.now
  { simulation with now := { now with nanoseconds := now.nanoseconds + 1000 } }

variable [Analytic α] [CheckpointStore σ α]

def perform (simulation : DaemonSimulation σ α) (task : Daemon.Task) :
    DaemonSimulation σ α :=
  let next := simulation.tick
  let (daemon, requests) := next.daemon.perform next.network task
  { next with daemon, requests := next.requests ++ requests }

/-- Let a time go by for the running loops. -/
def sleep (simulation : DaemonSimulation σ α) (milliseconds : Nat) :
    DaemonSimulation σ α :=
  match simulation.elapsed with
  | none => simulation
  | some start =>
      let stop := start + milliseconds
      let due := (Daemon.schedule simulation.daemon.config).due start stop
      let rested := (due.map (·.2)).foldl perform simulation
      { rested with elapsed := some stop }

end DaemonSimulation

end UsageForecast
