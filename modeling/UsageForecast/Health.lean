import UsageForecast.Cache
import UsageForecast.SortedMap
import UsageForecast.Json.Codec

/-!
# Health of the daemon

Every component is healthy, degraded or unhealthy; the worst of them is the
health of the daemon.  The daemon is ready once the manager has started and
while no component is unhealthy.
-/

namespace UsageForecast

inductive Health.Status where
  | healthy
  | degraded
  | unhealthy
deriving DecidableEq, Repr, Inhabited

namespace Health.Status

/-- Whether a component still does its work. -/
def isOperational : Status → Bool
  | .unhealthy => false
  | _ => true

/-- The worse of two statuses. -/
def worst : Status → Status → Status
  | .unhealthy, _ => .unhealthy
  | _, .unhealthy => .unhealthy
  | .degraded, _ => .degraded
  | _, .degraded => .degraded
  | .healthy, .healthy => .healthy

def name : Status → String
  | .healthy => "healthy"
  | .degraded => "degraded"
  | .unhealthy => "unhealthy"

def ofName? : String → Option Status
  | "healthy" => some .healthy
  | "degraded" => some .degraded
  | "unhealthy" => some .unhealthy
  | _ => none

end Health.Status

/-- The health of one component, checked at a second since 1970. -/
structure Health.Component where
  status : Health.Status
  message : Option String
  lastCheck : Int
deriving DecidableEq, Repr, Inhabited

structure Health.Report where
  status : Health.Status
  components : SortedMap String Health.Component

structure Health.Readiness where
  ready : Bool
  reason : Option String
deriving DecidableEq, Repr, Inhabited

/-- What the daemon knows about its components. -/
structure Health where
  components : SortedMap String Health.Component
  started : Bool

namespace Health

namespace Component

def healthy (now : Instant) : Component := ⟨.healthy, none, now.seconds⟩

/-- A component that does its work partly or with old data. -/
def degraded (now : Instant) (message : String) : Component :=
  ⟨.degraded, some message, now.seconds⟩

def unhealthy (now : Instant) (message : String) : Component :=
  ⟨.unhealthy, some message, now.seconds⟩

/-- The error of a cache that has failed since its last success. -/
def failingError? (status : Cache.Status) : Option String :=
  if status.consecutiveFailures = 0 then none else status.lastError

/-- The health of a component that serves caches: any synced cache keeps it
operational, failures on top of that degrade it. -/
def ofCaches (now : Instant) (statuses : List Cache.Status) : Component :=
  let synced := (statuses.filter fun status => status.synced).length
  match statuses.findSome? failingError? with
  | none =>
      if synced = statuses.length then healthy now
      else degraded now "waiting for first sync"
  | some error =>
      if synced = 0 then unhealthy now error else degraded now error

def toJson (component : Component) : Json :=
  .object ([("status", .string component.status.name)]
    ++ (match component.message with
      | none => []
      | some message => [("message", .string message)])
    ++ [("last_check_timestamp", Json.ofInt component.lastCheck)])

def ofJson? : Json → Option Component :=
  Json.record do
    let status ← Json.required "status" (Json.variant Status.ofName?)
    let message ← Json.nameable "message" Json.text?
    let lastCheck ← Json.required "last_check_timestamp"
      (Json.integerIn? (-Int.pow 2 63) (Int.pow 2 63 - 1))
    return ⟨status, message, lastCheck⟩

instance : Codec Component := ⟨toJson, ofJson?⟩

end Component

namespace Report

def toJson (report : Report) : Json :=
  .object [
    ("status", .string report.status.name),
    ("components", Json.ofMap id Component.toJson report.components)]

def ofJson? : Json → Option Report :=
  Json.record do
    let status ← Json.required "status" (Json.variant Status.ofName?)
    let components ← Json.required "components"
      (Json.mapOf some Component.ofJson?)
    return ⟨status, components⟩

instance : Codec Report := ⟨toJson, ofJson?⟩

end Report

namespace Readiness

def toJson (readiness : Readiness) : Json :=
  .object ([("ready", .bool readiness.ready)]
    ++ match readiness.reason with
      | none => []
      | some reason => [("reason", .string reason)])

def ofJson? : Json → Option Readiness :=
  Json.record do
    let ready ← Json.required "ready" Json.truth?
    let reason ← Json.nameable "reason" Json.text?
    return ⟨ready, reason⟩

instance : Codec Readiness := ⟨toJson, ofJson?⟩

end Readiness

def metricsRepository : String := "metrics_repository"

def workloadResolver : String := "workload_resolver"

def predictionManager : String := "prediction_manager"

def checkpointStore : String := "checkpoint_store"

def statusPublisher : String := "status_publisher"

def componentNames : List String :=
  [metricsRepository, workloadResolver, predictionManager, checkpointStore,
    statusPublisher]

def initial : Health := ⟨∅, false⟩

def update (health : Health) (name : String) (component : Component) :
    Health :=
  { health with components := health.components.insert name component }

/-- A component that is known from now on, and healthy. -/
def register (health : Health) (now : Instant) (name : String) : Health :=
  health.update name (.healthy now)

def registerAll (health : Health) (now : Instant) : Health :=
  componentNames.foldl (fun health name => health.register now name) health

def setStarted (health : Health) (started : Bool) : Health :=
  { health with started }

/-- The worst status of all components. -/
def status (health : Health) : Status :=
  health.components.values.foldl
    (fun status component => status.worst component.status) .healthy

def report (health : Health) : Report := ⟨health.status, health.components⟩

def readiness (health : Health) : Readiness :=
  if health.started then
    if health.status = .unhealthy then
      ⟨false, some "Critical component unhealthy"⟩
    else
      ⟨true, none⟩
  else
    ⟨false, some "Prediction manager not started"⟩

end Health

end UsageForecast
