import UsageForecast.SortedMap

/-!
# Telemetry

The counters that operators watch: what the engine ingested, what failed, and
how many profiles there are.  Telemetry is a value; operations return it with
their own counts added.
-/

namespace UsageForecast

/-- The counters of a running daemon. -/
structure Telemetry where
  /-- Timed profiling cycles. -/
  cycles : Nat
  /-- Registered profiles at the last change of their number. -/
  profiles : Nat
  /-- Samples folded into estimators. -/
  samples : Nat
  /-- Profiling cycles that failed. -/
  cycleErrors : Nat
  /-- Usage values that were malformed. -/
  malformedValues : Nat
  /-- Failed refreshes by cache. -/
  refreshErrors : SortedMap String Nat
  /-- Checkpoints that could not be saved or loaded. -/
  checkpointErrors : Nat
  /-- Results that were published. -/
  writes : Nat
  /-- Results that could not be published. -/
  failedWrites : Nat
deriving Inhabited

namespace Telemetry

def zero : Telemetry := ⟨0, 0, 0, 0, 0, ∅, 0, 0, 0⟩

def addRefreshError (telemetry : Telemetry) (cache : String) : Telemetry :=
  { telemetry with
    refreshErrors := telemetry.refreshErrors.alter cache fun count =>
      count.getD 0 + 1 }

def addMalformedValues (telemetry : Telemetry) (count : Nat) : Telemetry :=
  { telemetry with malformedValues := telemetry.malformedValues + count }

def addSamples (telemetry : Telemetry) (count : Nat) : Telemetry :=
  { telemetry with samples := telemetry.samples + count }

def addCheckpointError (telemetry : Telemetry) : Telemetry :=
  { telemetry with checkpointErrors := telemetry.checkpointErrors + 1 }

def setProfiles (telemetry : Telemetry) (profiles : Nat) : Telemetry :=
  { telemetry with profiles }

def addCycle (telemetry : Telemetry) : Telemetry :=
  { telemetry with cycles := telemetry.cycles + 1 }

def addCycleError (telemetry : Telemetry) : Telemetry :=
  { telemetry with cycleErrors := telemetry.cycleErrors + 1 }

def addWrite (telemetry : Telemetry) (success : Bool) : Telemetry :=
  if success then { telemetry with writes := telemetry.writes + 1 }
  else { telemetry with failedWrites := telemetry.failedWrites + 1 }

/-- The name of a counter within a family of counters. -/
def figureName (family : String) (member : String) : String :=
  s!"{family}/{member}"

def figures (telemetry : Telemetry) : List (String × Nat) :=
  [("cycle_latency_seconds", telemetry.cycles),
    ("profiles_registered", telemetry.profiles),
    ("samples_ingested_total", telemetry.samples),
    ("profile_cycle_errors_total", telemetry.cycleErrors),
    ("usage_parse_errors_total", telemetry.malformedValues),
    ("checkpoint_errors_total", telemetry.checkpointErrors),
    (figureName "status_writes_total" "success", telemetry.writes),
    (figureName "status_writes_total" "failure", telemetry.failedWrites)]
    ++ telemetry.refreshErrors.entries.map fun (cache, count) =>
      (figureName "cache_refresh_errors_total" cache, count)

end Telemetry

end UsageForecast
