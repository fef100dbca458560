import UsageForecast.Manager.Basic

/-!
# Rounds and garbage collection

A round runs every registered profile once.  Each cycle touches only its own
profiler, result and checkpoint, so the order of the cycles does not matter.
-/

namespace UsageForecast.Manager

variable {σ α : Type} [Analytic α] [CheckpointStore σ α]

/-- A round under way: what has become of the manager and the store, and what
has been counted. -/
structure Round (σ α : Type) where
  manager : Manager α
  store : σ
  telemetry : Telemetry
  summary : Summary

def Summary.add (summary : Summary) : Profiler.Outcome → Summary
  | .completed _ => { summary with succeeded := summary.succeeded + 1 }
  | .skipped _ => { summary with skipped := summary.skipped + 1 }
  | .failed _ => { summary with failed := summary.failed + 1 }
  | .crashed _ => { summary with failed := summary.failed + 1 }

/-- Count what a cycle did on its own account. -/
def countCycle (telemetry : Telemetry) (cycle : Profiler.Cycle σ α) :
    Telemetry :=
  let telemetry := telemetry.addMalformedValues cycle.malformed
  let telemetry :=
    if cycle.unsaved then telemetry.addCheckpointError else telemetry
  match cycle.outcome with
  | .completed report => telemetry.addSamples report.samples
  | _ => telemetry

/-- Count how a cycle of a round ended. -/
def countOutcome (telemetry : Telemetry) : Profiler.Outcome → Telemetry
  | .completed _ => telemetry.addCycle
  | .skipped _ => telemetry.addCycle
  | .failed _ => telemetry.addCycle.addCycleError
  | .crashed _ => telemetry.addCycleError

def keepsResult : Profiler.Outcome → Bool
  | .completed _ => true
  | .skipped _ => true
  | .failed _ => false
  | .crashed _ => false

def Round.add (round : Round σ α) (key : ProfileKey)
    (cycle : Profiler.Cycle σ α) : Round σ α :=
  let manager := round.manager
  { manager :=
      { manager with
        registry := manager.registry.insert key cycle.profiler
        results :=
          if keepsResult cycle.outcome then
            manager.results.insert key cycle.profiler.result
          else
            manager.results }
    store := cycle.store
    telemetry :=
      countOutcome (countCycle round.telemetry cycle) cycle.outcome
    summary := round.summary.add cycle.outcome }

def Round.step (settings : Profiler.Settings α) (resolver : Resolver)
    (repository : Repository α) (now : Instant) (round : Round σ α)
    (key : ProfileKey) : Round σ α :=
  match round.manager.registry.find? key with
  | none => round
  | some profiler =>
      round.add key
        (profiler.profile settings resolver repository now round.store)

def runRound (manager : Manager α) (settings : Profiler.Settings α)
    (resolver : Resolver) (repository : Repository α) (now : Instant)
    (store : σ) (telemetry : Telemetry) : Round σ α :=
  manager.keys.foldl (Round.step settings resolver repository now)
    ⟨manager, store, telemetry, ⟨manager.size, 0, 0, 0⟩⟩

/-- Whether a checkpoint may be deleted: its profile is not registered and it
was saved at the cutoff or before. -/
def isGarbage (manager : Manager α) (cutoff : Instant)
    (info : Checkpoint.Info) : Bool :=
  !manager.isRegistered info.key && compare info.savedAt cutoff != .gt

def deleteOne (state : σ × Nat) (info : Checkpoint.Info) : σ × Nat :=
  let (store, count) := state
  match CheckpointStore.delete α store info.key with
  | (store, .ok true) => (store, count + 1)
  | (store, _) => (store, count)

/-- Delete the checkpoints of profiles that are not registered and were saved
longer ago than the grace period, and count them.  A store that cannot be
listed is left alone; a grace period beyond the calendar stops the
operation. -/
def collectGarbage (manager : Manager α) (now : Instant) (grace : Nat)
    (store : σ) : Except Crash (σ × Nat) :=
  match CheckpointStore.list α store with
  | .error _ => .ok (store, 0)
  | .ok infos =>
      match now.before? (Instant.effectivePeriod grace) with
      | none => .error .dateRange
      | some cutoff =>
          .ok ((infos.filter (manager.isGarbage cutoff)).foldl
            (deleteOne (α := α)) (store, 0))

end UsageForecast.Manager
