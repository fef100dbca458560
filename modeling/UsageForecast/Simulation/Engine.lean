import UsageForecast.Engine.Tasks
import UsageForecast.Simulation.Store

/-!
# An engine in a described world

A simulation runs an engine against sources, a cluster and a writer that are
given as data.  Its clock moves by a step with every operation; the loops of
the engine run on a time of their own, which only moves while the simulation
sleeps.
-/

namespace UsageForecast

/-- An engine and its world. -/
structure Simulation (σ α : Type) where
  loops : Engine.Loops (FaultyStore σ) α
  periods : Engine.Periods
  now : Instant
  /-- What every source delivers, if it does. -/
  usage : SortedMap Source (Option (UsageSnapshot α))
  /-- What the cluster shows, if it can be listed. -/
  cluster : Option Cluster
  accepts : Publisher.Write → Bool
  /-- How often every source was asked. -/
  fetches : SortedMap Source Nat
  /-- How often the cluster was asked. -/
  listings : Nat
  /-- The writes that succeeded since the last report. -/
  writes : List Publisher.Write
  /-- Profilers by name that no manager knows. -/
  profilers : SortedMap String (Profiler α)
  /-- The time of the running loops, in milliseconds since their start. -/
  elapsed : Option Nat

namespace Simulation

variable {σ α : Type}

def create (engine : Engine (FaultyStore σ) α) (periods : Engine.Periods)
    (now : Instant) (usage : SortedMap Source (Option (UsageSnapshot α)))
    (cluster : Option Cluster) : Simulation σ α :=
  { loops := .start engine
    periods
    now
    usage
    cluster
    accepts := fun _ => true
    fetches := usage.mapValues fun _ _ => 0
    listings := 0
    writes := []
    profilers := ∅
    elapsed := none }

def engine (simulation : Simulation σ α) : Engine (FaultyStore σ) α :=
  simulation.loops.engine

def withEngine (simulation : Simulation σ α)
    (engine : Engine (FaultyStore σ) α) : Simulation σ α :=
  { simulation with loops := { simulation.loops with engine } }

def withStore (simulation : Simulation σ α) (store : FaultyStore σ) :
    Simulation σ α :=
  simulation.withEngine { simulation.engine with store }

def tick (simulation : Simulation σ α) : Simulation σ α :=
  let now := simulation.now
  { simulation with now := { now with nanoseconds := now.nanoseconds + 1000 } }

def delivered (simulation : Simulation σ α) (source : Source) :
    Except String (UsageSnapshot α) :=
  match (simulation.usage.find? source).join with
  | some snapshot => .ok snapshot
  | none => .error s!"{source.display} unavailable"

def shown (simulation : Simulation σ α) : Except String Cluster :=
  match simulation.cluster with
  | some cluster => .ok cluster
  | none => .error "cluster view unavailable"

/-- The world as the engine sees it. -/
def world (simulation : Simulation σ α) : Engine.World α :=
  { now := simulation.now
    fetch := simulation.delivered
    cluster := simulation.shown
    write := simulation.accepts }

def countFetch (simulation : Simulation σ α) (source : Source) :
    Simulation σ α :=
  if simulation.fetches.contains source then
    { simulation with
      fetches := simulation.fetches.alter source fun count =>
        count.getD 0 + 1 }
  else
    simulation

def countListing (simulation : Simulation σ α) : Simulation σ α :=
  { simulation with listings := simulation.listings + 1 }

def countTask (simulation : Simulation σ α) :
    Engine.Task → Simulation σ α
  | .refreshUsage =>
      simulation.engine.repository.sources.foldl countFetch simulation
  | .refreshCluster => simulation.countListing
  | _ => simulation

def record (simulation : Simulation σ α)
    (writes : List (Publisher.Write × Bool)) : Simulation σ α :=
  { simulation with
    writes := simulation.writes ++ (writes.filter (·.2)).map (·.1) }

/-- The writes since the last report, sorted by owner, which are then
forgotten. -/
def report (simulation : Simulation σ α) :
    List Publisher.Write × Simulation σ α :=
  (simulation.writes.mergeSort fun left right =>
      (compare left.owner right.owner).isLE,
    { simulation with writes := [] })

def withProfiler (simulation : Simulation σ α) (name : String)
    (profiler : Profiler α) : Simulation σ α :=
  { simulation with
    profilers := simulation.profilers.insert name profiler }

def refreshCluster (simulation : Simulation σ α) :
    Simulation σ α × Except Failure Unit :=
  let (engine, outcome) :=
    simulation.engine.refreshCluster simulation.now simulation.shown
  (simulation.countListing.withEngine engine, outcome)

def refreshUsage (simulation : Simulation σ α) (source : Source) :
    Simulation σ α × Except Failure Unit :=
  let (engine, outcome) := simulation.engine.refreshUsage simulation.now
    source (simulation.delivered source)
  ((simulation.countFetch source).withEngine engine, outcome)

variable [Analytic α]

def refreshAllUsage (simulation : Simulation σ α) : Simulation σ α :=
  (simulation.countTask .refreshUsage).withEngine
    (simulation.engine.refreshAllUsage simulation.now simulation.delivered)

def publish (simulation : Simulation σ α) :
    Simulation σ α × Publisher.Summary :=
  let (engine, round) := simulation.engine.publish simulation.accepts
  ((simulation.withEngine engine).record round.writes, round.summary)

variable [CheckpointStore σ α]

def profile (simulation : Simulation σ α) (name : String)
    (profiler : Profiler α) : Simulation σ α × Profiler.Outcome :=
  let (engine, next, outcome) :=
    simulation.engine.profile simulation.now profiler
  ((simulation.withEngine engine).withProfiler name next, outcome)

/-- Run two cycles of a profiler of a name, the second of which starts while
the first one saves.  If the first one ends before that, the second one runs
after it. -/
def profileTwice (simulation : Simulation σ α) (name : String)
    (profiler : Profiler α) :
    Simulation σ α × List Profiler.Outcome :=
  let (simulation, first) := simulation.profile name profiler
  match first with
  | .completed _ => (simulation, [first, Profiler.busy])
  | .crashed _ => (simulation, [first])
  | _ =>
      let (simulation, second) := simulation.profile name
        ((simulation.profilers.find? name).getD profiler)
      (simulation, [first, second])

def register (simulation : Simulation σ α) (key : ProfileKey)
    (spec : Spec α) :
    Except Crash (Simulation σ α × Except Failure Unit) := do
  let (engine, outcome) ←
    simulation.engine.register simulation.now key spec
  return (simulation.withEngine engine, outcome)

def perform (simulation : Simulation σ α) (task : Engine.Task) :
    Simulation σ α :=
  let next := (simulation.countTask task).tick
  let (loops, writes) := next.loops.perform next.world task
  { next with loops }.record writes

/-- Start the loops; their first round is due at once. -/
def startLoops (simulation : Simulation σ α) : Simulation σ α :=
  { simulation with
    loops := .start simulation.engine
    elapsed := some 0 }

def stopLoops (simulation : Simulation σ α) : Simulation σ α :=
  { simulation with elapsed := none }

def sleep (simulation : Simulation σ α) (milliseconds : Nat) :
    Simulation σ α :=
  match simulation.elapsed with
  | none => simulation
  | some start =>
      let stop := start + milliseconds
      let due := simulation.periods.schedule.due start stop
      let rested := (due.map (·.2)).foldl perform simulation
      { rested with elapsed := some stop }

end Simulation

end UsageForecast
