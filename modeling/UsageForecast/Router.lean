import UsageForecast.Health
import UsageForecast.Telemetry

/-!
# The answers of the daemon's own endpoints

The daemon answers four paths: its health, its readiness, its telemetry and
the registered profiles with their results.
-/

namespace UsageForecast.Router

inductive Body where
  | nothing
  | data (value : Json)
  | text (content : String)

structure Answer where
  status : Nat
  body : Body

def Body.contentType? : Body → Option String
  | .nothing => none
  | .data _ => some "application/json"
  | .text _ => some "text/plain; charset=utf-8"

/-- The path of a request target, without its query. -/
def pathOf (target : String) : String :=
  String.ofList (target.toList.takeWhile fun letter => letter != '?')

/-- Health: fine unless a component is unhealthy. -/
def health (state : Health) : Answer :=
  ⟨if state.status.isOperational then 200 else 503,
    .data state.report.toJson⟩

/-- Readiness: fine once the manager has started. -/
def readiness (state : Health) : Answer :=
  let readiness := state.readiness
  ⟨if readiness.ready then 200 else 503, .data readiness.toJson⟩

/-- The telemetry, one figure a line. -/
def telemetry (figures : Telemetry) : Answer :=
  ⟨200, .text (String.join (figures.figures.map fun (name, count) =>
    s!"resource_predictor_{name} {count}\n"))⟩

/-- The profiles, which only an engine has. -/
def profiles : Option Json → Answer
  | some listing => ⟨200, .data listing⟩
  | none =>
      ⟨503, .data (.object
        [("error", .string "prediction engine unavailable")])⟩

/-- The answer to a request target; `listing` holds the registered profiles
if there is an engine. -/
def answer (state : Health) (figures : Telemetry) (listing : Option Json)
    (target : String) : Answer :=
  match pathOf target with
  | "/healthz" => health state
  | "/readyz" => readiness state
  | "/metrics" => telemetry figures
  | "/profiles" => profiles listing
  | _ => ⟨404, .nothing⟩

end UsageForecast.Router
