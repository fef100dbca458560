import UsageForecast.Resource
import UsageForecast.Selector

/-!
# Pods

A pod is known by its name, its labels, the names of its containers and the
phase of its life; a template declares the labels and containers that the pods
of a workload are created with.
-/

namespace UsageForecast

/-- A pod as the resolver sees it. -/
structure Pod where
  id : PodName
  labels : Labels
  containers : List String
  phase : Option String
deriving DecidableEq, Inhabited

namespace Pod

/-- Whether a phase is one that a pod does not leave. -/
def isTerminal (phase : String) : Bool :=
  phase == "Succeeded" || phase == "Failed"

/-- Whether a pod still produces usage. -/
def isActive (pod : Pod) : Bool := !pod.phase.any isTerminal

def toJson (pod : Pod) : Json :=
  .object [
    ("id", pod.id.toJson),
    ("labels", Selector.labelsToJson pod.labels),
    ("containers", Json.ofStrings pod.containers),
    ("phase", Json.ofOption .string pod.phase)]

def ofJson? : Json → Option Pod :=
  Json.record do
    let id ← Json.required "id" QualifiedName.ofJson?
    let labels ← Json.defaulted "labels" ∅ Selector.labelsOfJson?
    let containers ←
      Json.defaulted "containers" [] (Json.listOf Json.text?)
    let phase ← Json.optional "phase" Json.text?
    return ⟨id, labels, containers, phase⟩

instance : Codec Pod := ⟨toJson, ofJson?⟩

end Pod

/-- The labels and containers that a workload declares for its pods. -/
structure PodTemplate where
  labels : Labels
  containers : List String
deriving DecidableEq, Inhabited

namespace PodTemplate

def empty : PodTemplate := ⟨∅, []⟩

def toJson (template : PodTemplate) : Json :=
  .object [
    ("labels", Selector.labelsToJson template.labels),
    ("containers", Json.ofStrings template.containers)]

def ofJson? : Json → Option PodTemplate :=
  Json.record do
    let labels ← Json.defaulted "labels" ∅ Selector.labelsOfJson?
    let containers ←
      Json.defaulted "containers" [] (Json.listOf Json.text?)
    return ⟨labels, containers⟩

instance : Codec PodTemplate := ⟨toJson, ofJson?⟩

end PodTemplate

end UsageForecast
