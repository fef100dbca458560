import UsageForecast.Text.Quoted

/-!
# Failures of the engine

The ways an operation of the engine can fail, by cause, and the one place
that words them.
-/

namespace UsageForecast

/-- Why a profile spec, or a part of one, is refused. -/
inductive SpecFault where
  | unknownResource (name : String)
  | quantileLabel (label : String)
  | noSources
  | noEstimators
  | noResources (source : String)
  | unservedResource (resource : String)
  | repeatedSource (source : String)
  | halfLife (value : String)
  | noBackends
  | noMetricServer
  | noPrometheus
  | foreignPayload (kind : String)
  | foreignKey (profile : String)
  /-- A cause that is only known by its text. -/
  | stated (reason : String)
deriving DecidableEq, Repr, Inhabited

def SpecFault.message : SpecFault → String
  | .unknownResource name => s!"unknown resource name {Text.quote name}"
  | .quantileLabel label => s!"invalid quantile label {Text.quote label}"
  | .noSources => "no metric sources"
  | .noEstimators => "no estimators"
  | .noResources source => s!"source {source} lists no resources"
  | .unservedResource resource => s!"metrics API does not serve {resource}"
  | .repeatedSource source => s!"source {source} listed twice"
  | .halfLife value => s!"decay half-life must be positive, got {value}"
  | .noBackends => "prometheus source lists no backends"
  | .noMetricServer => "metricsApi source without metricServer payload"
  | .noPrometheus => "prometheus source without prometheus payload"
  | .foreignPayload kind =>
      s!"{kind} source carries a payload for another source"
  | .foreignKey profile =>
      s!"spec sources or estimators do not match profile {profile}"
  | .stated reason => reason

/-- Why an operation of the engine failed. -/
inductive Failure where
  | notStarted
  | notRegistered (profile : String)
  | unsupportedKind (kind : String)
  | notFound (kind scope name : String)
  | unreadable (value reason : String)
  | unavailable (reason : String)
  | checkpoint (reason : String)
  | invalidSpec (fault : SpecFault)
deriving DecidableEq, Repr, Inhabited

namespace Failure

def message : Failure → String
  | .notStarted => "prediction manager is not started"
  | .notRegistered profile => s!"profile is not registered: {profile}"
  | .unsupportedKind kind => s!"unsupported target kind: {kind}"
  | .notFound kind scope name => s!"{kind} {scope}/{name} not found"
  | .unreadable value reason =>
      s!"failed to parse usage value {Text.quote value}: {reason}"
  | .unavailable reason => s!"backend unavailable: {reason}"
  | .checkpoint reason => s!"checkpoint error: {reason}"
  | .invalidSpec fault => s!"invalid profile spec: {fault.message}"

/-- Whether the failure says that an object does not exist. -/
def isNotFound : Failure → Bool
  | .notFound .. => true
  | _ => false

end Failure

/-- A defect that stops an operation before it can answer. -/
inductive Crash where
  /-- A quantile was asked of statistics whose bounds are not ordered. -/
  | unorderedBounds
  /-- A date left the range of the calendar. -/
  | dateRange
deriving DecidableEq, Repr, Inhabited

end UsageForecast
