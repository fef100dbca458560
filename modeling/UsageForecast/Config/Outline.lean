import UsageForecast.Config.Basic

/-!
# What a configuration amounts to

The outline of a configuration shows every setting with its default filled in,
and every configured profile with its key and its spec.
-/

namespace UsageForecast

def QueryBackend.outline (backend : QueryBackend) : Json :=
  .object [
    ("name", .string backend.name),
    ("endpoint", .string backend.endpoint),
    ("timeoutSecs", Json.ofNat backend.timeoutSeconds),
    ("queries", Json.ofMap Resource.name .string backend.effectiveQueries),
    ("source", backend.offer.toJson "name")]

namespace Config

variable {α : Type} [Scalar α]

def managerOutline (config : Config α) : Json :=
  .object [
    ("profileInterval", Json.ofNat config.profilePeriod),
    ("maxConcurrentProfiles", Json.ofNat config.concurrentCycles),
    ("checkpointGrace", Json.ofNat config.checkpointGrace),
    ("gcInterval", Json.ofNat config.garbagePeriod),
    ("containerGrace", Json.ofNat config.containerGrace),
    ("halfLife", Json.ofScalar config.halfLife)]

/-- Write a configured profile; `verdict` tells whether its spec is valid. -/
def profileOutline (verdict : Except SpecFault Unit → Json)
    (profile : ProfileKey × Spec α) : Json :=
  let (key, spec) := profile
  .object [
    ("key", key.toJson),
    ("display", .string key.display),
    ("spec", spec.toJson),
    ("valid", verdict spec.validate)]

/-- Write the outline of a configuration. -/
def outline (config : Config α) (verdict : Except SpecFault Unit → Json) :
    Json :=
  .object [
    ("apiPort", Json.ofNat config.port),
    ("manager", config.managerOutline),
    ("repositoryRefresh", Json.ofNat config.usagePeriod),
    ("resolverRefresh", Json.ofNat config.clusterPeriod),
    ("publishInterval", Json.ofNat config.publishPeriod),
    ("maxConcurrentWrites", Json.ofNat concurrentWrites),
    ("checkpointDir", .string config.checkpointDirectory),
    ("metricsApiEnabled", .bool config.metricsApi),
    ("prometheus",
      .array (config.queryBackends.map QueryBackend.outline)),
    ("sources", .array (config.offers.map (Backend.toJson "name"))),
    ("extendedKinds", .array (config.extendedKinds.map ApiKind.toJson)),
    ("statusTarget", config.statusTarget.toJson),
    ("profiles",
      .array (config.resolvedProfiles.map (profileOutline verdict)))]

end Config

end UsageForecast
