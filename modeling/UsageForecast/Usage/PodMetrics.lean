import UsageForecast.Cluster.Objects
import UsageForecast.Time.Timestamp
import UsageForecast.Usage.Snapshot

/-!
# Usage from the cluster metrics API

The metrics API lists an object for each pod, with a time and the quantities
used by its containers.  Quantities are kept as texts, so that a malformed one
only drops itself; parts of a body that are not as they should be are skipped.
-/

namespace UsageForecast.PodMetrics

variable {α : Type}

def kind : ApiKind := ⟨"metrics.k8s.io", "v1beta1", "PodMetrics", "pods"⟩

/-- The time of an object; the present without a readable one. -/
def timestamp (now : Instant) (body : Json) : Instant :=
  (((body.member? "timestamp").bind Json.text?).bind
    Timestamp.parseStrict?).getD now

/-- The quantity of a resource in the usage of a container. -/
def quantity? (usage : Json) (resource : Resource) :
    Option (Resource × String) := do
  let quantity ← usage.member? resource.name
  return (resource, ← quantity.text?)

/-- The quantities of a container, which has to have a name. -/
def containerUsage? (container : Json) :
    Option (String × List (Resource × String)) := do
  let name ← (container.member? "name").bind Json.text?
  match container.member? "usage" with
  | some (.object quantities) =>
      return (name, Resource.all.filterMap (quantity? (.object quantities)))
  | _ => none

def addContainer (usage : PodUsage α)
    (container : String × List (Resource × String)) : PodUsage α :=
  container.2.foldl
    (fun usage (resource, quantity) =>
      usage.insert container.1 resource (.text quantity))
    usage

def podUsage (now : Instant) (body : Json) : PodUsage α :=
  let containers := ((body.member? "containers").bind Json.items?).getD []
  (containers.filterMap containerUsage?).foldl addContainer
    (.empty (timestamp now body))

/-- Read an object of the list; without a full name it reports nothing. -/
def item? (now : Instant) : Json → Option (Option (PodName × PodUsage α)) :=
  ApiObject.reading fun body => do
    let metadata ← ApiObject.looseMetadata? body
    return metadata.id?.map fun id => (id, podUsage now body)

def fetch (server : Http.Server) (now : Instant) :
    Http.Exchange BackendFault (UsageSnapshot α) := do
  let items ← ApiObject.list server kind.listPath "pod metrics" (item? now)
  return SortedMap.ofList (items.filterMap id)

end UsageForecast.PodMetrics
