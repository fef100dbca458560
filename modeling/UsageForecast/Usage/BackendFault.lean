import UsageForecast.Http.Message
import UsageForecast.Http.Url
import UsageForecast.Resource
import UsageForecast.Text.Quoted

/-!
# Faults of back ends

Why a back end could not be asked, or what was wrong with its answer, and the
texts of these faults.
-/

namespace UsageForecast

inductive QueryFault where
  | unsent
  | refused (status : Nat) (body : String)
  | unreadable
  | failed (reason : String)
  | noData
  | resultType (found : String)
deriving DecidableEq, Repr, Inhabited

def QueryFault.message : QueryFault → String
  | .unsent => "Failed to send query"
  | .refused status body =>
      String.join ["Prometheus error (", Http.Status.display status, "): ",
        body]
  | .unreadable => "Failed to parse response"
  | .failed reason => s!"Prometheus query failed: {reason}"
  | .noData => "Prometheus response has no data"
  | .resultType found => s!"Unexpected result type {Text.quote found}"

/-- Why a back end does not deliver. -/
inductive BackendFault where
  | address (fault : Url.Fault)
  | queryPath
  | query (backend : String) (resource : Resource) (fault : QueryFault)
  | listing (subject : String)
  | delivery (kind : String) (owner : Owner)
deriving DecidableEq, Repr, Inhabited

namespace BackendFault

/-- The text of a fault, without its causes. -/
def message : BackendFault → String
  | .address _ => "Invalid Prometheus URL"
  | .queryPath => "Invalid query path"
  | .query backend resource _ => s!"{backend} query for {resource.name}"
  | .listing subject => s!"Failed to list {subject}"
  | .delivery kind owner =>
      s!"Failed to patch status of {kind} {owner.display}"

/-- The texts of the causes of a fault among the engine's own. -/
def causes : BackendFault → List String
  | .query _ _ fault => [fault.message]
  | _ => []

/-- The text of a fault with all its causes. -/
def explain : BackendFault → String
  | .address fault => s!"{message (.address fault)}: {fault.message}"
  | .queryPath =>
      String.join [message .queryPath,
        ": relative URL with a cannot-be-a-base base"]
  | fault => ": ".intercalate (fault.message :: fault.causes)

end BackendFault

end UsageForecast
