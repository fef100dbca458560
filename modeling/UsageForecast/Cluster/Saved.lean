import UsageForecast.Cluster.Resolver

/-!
# Views of the cluster in structured data

A view of the cluster is written as the list of its controllers, in order, and
the list of its pods.
-/

namespace UsageForecast.Cluster

def controllerToJson (name : ControllerName) (controller : Controller) :
    Json :=
  .object [
    ("kind", .string name.kind),
    ("namespace", .string name.scope),
    ("name", .string name.name),
    ("selector", Json.ofOption Selector.toJson controller.selector),
    ("template", controller.template.toJson)]

def controllerOfJson? : Json → Option (ControllerName × Controller) :=
  Json.record do
    let kind ← Json.required "kind" Json.text?
    let scope ← Json.required "namespace" Json.text?
    let name ← Json.required "name" Json.text?
    let selector ← Json.optional "selector" Selector.ofJson?
    let template ← Json.optional "template" PodTemplate.ofJson?
    return (⟨kind, scope, name⟩, ⟨selector, template.getD .empty⟩)

def toJson (cluster : Cluster) : Json :=
  .object [
    ("workloads", .array (cluster.controllers.entries.map
      fun (name, controller) => controllerToJson name controller)),
    ("pods", .array (cluster.pods.map Pod.toJson))]

def ofJson? : Json → Option Cluster :=
  Json.record do
    let controllers ←
      Json.defaulted "workloads" [] (Json.listOf controllerOfJson?)
    let pods ← Json.defaulted "pods" [] (Json.listOf Pod.ofJson?)
    return ⟨SortedMap.ofList controllers, pods⟩

instance : Codec Cluster := ⟨toJson, ofJson?⟩

end UsageForecast.Cluster
