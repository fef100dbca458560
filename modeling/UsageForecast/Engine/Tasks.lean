import UsageForecast.Engine.Basic
import UsageForecast.Engine.Schedule

/-!
# The tasks of a running engine

The loops of an engine as tasks with periods, and what each of them does with
what the outside world answers at the time.
-/

namespace UsageForecast.Engine

/-- What an engine does periodically. -/
inductive Task where
  | refreshUsage
  | refreshCluster
  | runProfiles
  | collectGarbage
  | publish
deriving DecidableEq, Repr, Inhabited

def Task.ofManager : Task → Bool
  | .runProfiles => true
  | .collectGarbage => true
  | .refreshUsage => false
  | .refreshCluster => false
  | .publish => false

/-- The periods of the tasks in seconds. -/
structure Periods where
  usage : Nat
  cluster : Nat
  profiles : Nat
  garbage : Nat
  publishing : Nat
deriving DecidableEq, Repr, Inhabited

/-- The schedule of an engine, in milliseconds.  The manager's two tasks share
a loop, which needs both periods. -/
def Periods.schedule (periods : Periods) : Schedule Task :=
  let manager (period : Nat) :=
    if periods.profiles = 0 ∨ periods.garbage = 0 then 0 else period
  [(.refreshUsage, 1000 * periods.usage),
    (.refreshCluster, 1000 * periods.cluster),
    (.runProfiles, 1000 * manager periods.profiles),
    (.collectGarbage, 1000 * manager periods.garbage),
    (.publish, 1000 * periods.publishing)]

/-- What the outside world answers at a time. -/
structure World (α : Type) where
  now : Instant
  fetch : Source → Except String (UsageSnapshot α)
  cluster : Except String Cluster
  write : Publisher.Write → Bool
  hashes : Hashes := .equal

variable {σ α : Type} [Analytic α] [CheckpointStore σ α]

def refreshAllUsage (engine : Engine σ α) (now : Instant)
    (fetch : Source → Except String (UsageSnapshot α)) : Engine σ α :=
  engine.repository.sources.foldl
    (fun engine source =>
      (engine.refreshUsage now source (fetch source)).1)
    engine

/-- Perform a task.  Profiles only run and checkpoints are only deleted after
the manager has started; the writes of a round of publishing are returned. -/
def perform (engine : Engine σ α) (world : World α) :
    Task → Except Crash (Engine σ α × List (Publisher.Write × Bool))
  | .refreshUsage =>
      .ok (engine.refreshAllUsage world.now world.fetch, [])
  | .refreshCluster =>
      .ok ((engine.refreshCluster world.now world.cluster).1, [])
  | .runProfiles =>
      let engine := engine.tryStart
      if engine.manager.started then
        .ok ((engine.runRound world.now world.hashes).1, [])
      else
        .ok (engine, [])
  | .collectGarbage =>
      if engine.manager.started then
        (engine.collectGarbage world.now).map fun (engine, _) => (engine, [])
      else
        .ok (engine, [])
  | .publish =>
      let (engine, round) := engine.publish world.write
      .ok ({ engine with
        publisher := engine.publisher.remember round.summary },
        round.writes)

/-- An engine with its loops. -/
structure Loops (σ α : Type) where
  engine : Engine σ α
  /-- Whether a defect has ended the loop of the manager; the other loops go
  on. -/
  managerEnded : Bool

def Loops.start (engine : Engine σ α) : Loops σ α := ⟨engine, false⟩

def Loops.perform (loops : Loops σ α) (world : World α) (task : Task) :
    Loops σ α × List (Publisher.Write × Bool) :=
  if loops.managerEnded && task.ofManager then
    (loops, [])
  else
    match loops.engine.perform world task with
    | .ok (engine, writes) => ({ loops with engine }, writes)
    | .error _ => ({ loops with managerEnded := true }, [])

end UsageForecast.Engine
