import UsageForecast.Json.Basic

/-!
# The journal of lifecycle events

Components report what happens in their lives as structured events: a level,
a message for people, the name of the event, the component and the facts of
the event.
-/

namespace UsageForecast

inductive Journal.Severity where
  | info
  | warning
deriving DecidableEq, Repr, Inhabited

def Journal.Severity.name : Journal.Severity → String
  | .info => "INFO"
  | .warning => "WARN"

inductive Journal.Fact where
  | text (value : String)
  | number (value : Nat)
  | truth (value : Bool)
deriving DecidableEq, Repr, Inhabited

/-- What can happen in the life of the daemon. -/
inductive Journal.Event where
  | started (version : String)
  | stopped (reason : String)
  | managerStarted
  /-- A profile was registered: as a new one or with a new spec, and possibly
  with the state of a checkpoint. -/
  | registered (profile : String) (created restored : Bool)
  | unregistered (profile : String)
  | cycleFinished (profiles succeeded skipped failed milliseconds : Nat)
  | published (owner : String) (containers : Nat) (success : Bool)
  | collected (removed remaining : Nat)
deriving DecidableEq, Repr, Inhabited

namespace Journal.Event

def severity : Event → Severity
  | .cycleFinished _ _ _ failed _ => if 0 < failed then .warning else .info
  | .published _ _ success => if success then .info else .warning
  | _ => .info

def message : Event → String
  | .started _ => "Resource predictor started"
  | .stopped _ => "Resource predictor shutting down"
  | .managerStarted => "Dependencies synced, accepting profile registrations"
  | .registered .. => "Profile registered"
  | .unregistered _ => "Profile unregistered"
  | .cycleFinished _ _ _ failed _ =>
      if 0 < failed then "Profiling cycle finished with failures"
      else "Profiling cycle finished"
  | .published _ _ success =>
      if success then "Published prediction status"
      else "Failed to publish prediction status, will retry next interval"
  | .collected .. => "Removed orphaned checkpoints"

def name : Event → String
  | .started _ => "predictor_started"
  | .stopped _ => "predictor_shutdown"
  | .managerStarted => "manager_started"
  | .registered .. => "profile_registered"
  | .unregistered _ => "profile_unregistered"
  | .cycleFinished .. => "profiling_cycle"
  | .published _ _ success =>
      if success then "status_published" else "status_publish_failed"
  | .collected .. => "checkpoint_gc"

/-- The facts of an event; a cycle counts failures only if it had some. -/
def facts : Event → List (String × Fact)
  | .started version => [("version", .text version)]
  | .stopped reason => [("reason", .text reason)]
  | .managerStarted => []
  | .registered profile created restored =>
      [("profile", .text profile), ("created", .truth created),
        ("restored", .truth restored)]
  | .unregistered profile => [("profile", .text profile)]
  | .cycleFinished profiles succeeded skipped failed milliseconds =>
      [("profiles", .number profiles), ("succeeded", .number succeeded),
        ("skipped", .number skipped)]
        ++ (if 0 < failed then [("failed", .number failed)] else [])
        ++ [("elapsed_ms", .number milliseconds)]
  | .published owner containers _ =>
      [("owner", .text owner), ("containers", .number containers)]
  | .collected removed remaining =>
      [("removed", .number removed), ("remaining", .number remaining)]

def factToJson : Fact → Json
  | .text value => .string value
  | .number value => Json.ofNat value
  | .truth value => .bool value

def toJson (component : String) (event : Event) : Json :=
  .object ([
    ("level", .string event.severity.name),
    ("message", .string event.message),
    ("event", .string event.name),
    ("component", .string component)]
    ++ event.facts.map fun (name, fact) => (name, factToJson fact))

end Journal.Event

end UsageForecast
