import UsageForecast.Cluster.ApiKind
import UsageForecast.Config.Reading
import UsageForecast.Profile.Key
import UsageForecast.Usage.Queries

/-!
# The configuration of the daemon

Every value has a default, so that an empty configuration is valid.  Profiles
that are configured without a spec get the standard one for their target,
which asks every configured back end.
-/

namespace UsageForecast

/-- A profile that is registered at the start. -/
structure Config.StaticProfile (α : Type) where
  target : Target
  level : Level
  owner : Option Owner
  spec : Option (Spec α)

/-- The configuration of the daemon; periods are in seconds. -/
structure Config (α : Type) where
  /-- The port of the daemon's own endpoints. -/
  port : Nat
  profilePeriod : Nat
  concurrentCycles : Nat
  usagePeriod : Nat
  clusterPeriod : Nat
  publishPeriod : Nat
  checkpointDirectory : String
  checkpointGrace : Nat
  containerGrace : Nat
  garbagePeriod : Nat
  halfLife : α
  /-- Whether the cluster metrics API is a source. -/
  metricsApi : Bool
  queryBackends : List QueryBackend
  extendedKinds : List ApiKind
  /-- The kind of the objects that receive published results. -/
  statusTarget : ApiKind
  profiles : List (Config.StaticProfile α)

namespace Config

variable {α : Type} [Scalar α]

/-- The key and the spec of a configured profile.  An owner in the spec counts
more than one beside it. -/
def StaticProfile.resolve (profile : StaticProfile α)
    (backends : List Backend) : ProfileKey × Spec α :=
  let spec :=
    match profile.spec, profile.target with
    | some spec, _ => spec
    | none, .workload _ => .forWorkload none backends
    | none, .pods .. => .forSelector none
  let owned := { spec with owner := spec.owner.or profile.owner }
  (.ofSpec profile.target profile.level owned, owned)

def standardTarget : ApiKind :=
  ⟨"analysis.koordinator.sh", "v1alpha1", "Recommendation",
    "recommendations"⟩

def standardDirectory : String := "/var/lib/resource-predictor/checkpoints"

def concurrentWrites : Nat := 5

def StaticProfile.read (reading : Reading α) :
    Json → Option (StaticProfile α) :=
  Json.record do
    let target ← Json.required "target" Target.ofJson?
    let level ← Json.defaulted "hierarchy" .container reading.level
    let owner ← Json.optional "owner" (QualifiedName.reader reading.text)
    let spec ← Json.optional "spec" (Spec.reader reading.text)
    return ⟨target, level, owner, spec⟩

def readPort (reading : Reading α) (value : Json) : Option Nat :=
  (reading.word value).filter (· < UInt16.size)

/-- Read a configuration; unknown members are skipped. -/
def read (reading : Reading α) : Json → Option (Config α) :=
  Json.record do
    let word (name : String) (standard : Nat) :=
      Json.defaulted name standard reading.word
    let port ← Json.defaulted "api_port" 8080 (readPort reading)
    let profilePeriod ← word "profile_interval_secs" 60
    let concurrentCycles ← word "max_concurrent_profiles" 8
    let usagePeriod ← word "metrics_refresh_secs" 120
    let clusterPeriod ← word "resolver_refresh_secs" 60
    let publishPeriod ← word "status_update_secs" 300
    let checkpointDirectory ←
      Json.defaulted "checkpoint_dir" standardDirectory reading.text
    let checkpointGrace ← word "checkpoint_grace_secs" 3600
    let containerGrace ← word "container_grace_secs" 600
    let garbagePeriod ← word "gc_interval_secs" 600
    let halfLife ← Json.defaulted "decay_half_life_cycles"
      (Scalar.scientific 288 0) reading.scalar
    let metricsApi ←
      Json.defaulted "metrics_api_enabled" true reading.truth
    let queryBackends ← Json.defaulted "prometheus" []
      (Json.listOf (QueryBackend.reader reading.text reading.word))
    let extendedKinds ← Json.defaulted "extended_kinds" []
      (Json.listOf (ApiKind.reader reading.text))
    let statusTarget ← Json.defaulted "status_target" standardTarget
      (ApiKind.reader reading.text)
    let profiles ← Json.defaulted "profiles" []
      (Json.listOf (StaticProfile.read reading))
    return {
      port, profilePeriod, concurrentCycles, usagePeriod, clusterPeriod,
      publishPeriod, checkpointDirectory, checkpointGrace, containerGrace,
      garbagePeriod, halfLife, metricsApi, queryBackends, extendedKinds,
      statusTarget, profiles }

/-- What the configured query back ends offer to specs. -/
def offers (config : Config α) : List Backend :=
  config.queryBackends.map QueryBackend.offer

def resolvedProfiles (config : Config α) : List (ProfileKey × Spec α) :=
  config.profiles.map fun profile => profile.resolve config.offers

def sources (config : Config α) : List Source :=
  (if config.metricsApi then [.metricsApi] else [])
    ++ config.queryBackends.map fun backend => .prometheus backend.name

end Config

end UsageForecast
