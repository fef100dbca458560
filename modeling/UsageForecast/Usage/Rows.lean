import UsageForecast.Estimator.Saved
import UsageForecast.Usage.Snapshot

/-!
# Snapshots of usage in structured data

A snapshot is written as a list of rows, one for each pod, in order.
-/

namespace UsageForecast

variable {α : Type} [Scalar α]

/-- Write a measurement as a record that says what it is. -/
def Measurement.toJson : Measurement α → Json
  | .text quantity => .object [("text", .string quantity)]
  | .value amount => .object [("value", Json.ofScalar amount)]

namespace PodUsage

def toRow (pod : PodName) (usage : PodUsage α) : Json :=
  .object [
    ("namespace", .string pod.scope),
    ("pod", .string pod.name),
    ("timestamp", usage.timestamp.toJson),
    ("containers", Json.ofMap id (Json.ofMap Resource.name Measurement.toJson)
      usage.containers)]

/-- Read a row whose measurements are read in a given way. -/
def ofRow? (measurement? : Json → Option (Measurement α)) :
    Json → Option (PodName × PodUsage α) :=
  Json.record do
    let scope ← Json.required "namespace" Json.text?
    let pod ← Json.required "pod" Json.text?
    let timestamp ← Json.required "timestamp" Instant.ofJson?
    let containers ← Json.defaulted "containers" ∅
      (Json.mapOf some (Json.mapOf Resource.ofName? measurement?))
    return (⟨scope, pod⟩, ⟨timestamp, containers⟩)

end PodUsage

namespace UsageSnapshot

def toJson (snapshot : UsageSnapshot α) : Json :=
  .array (snapshot.entries.map fun (pod, usage) => usage.toRow pod)

/-- Read a snapshot from its rows; of a repeated pod the last row counts. -/
def ofRows? (measurement? : Json → Option (Measurement α)) (value : Json) :
    Option (UsageSnapshot α) :=
  (Json.listOf (PodUsage.ofRow? measurement?) value).map SortedMap.ofList

end UsageSnapshot

end UsageForecast
