import UsageForecast.Cluster.Objects
import UsageForecast.Cluster.Resolver

/-!
# Listing the cluster

A view of the cluster is listed kind by kind: the usual controllers, the kinds
that the configuration adds, then the pods.  The first failure of a usual kind
ends the listing; an added kind that fails is left out.
-/

namespace UsageForecast.Listing

open ApiObject

/-- A requirement whose operator is not among the known ones is left out. -/
def requirement? (value : Json) : Option (Option Selector.Requirement) :=
  reading (fun value => do
    let key ← member "key" Json.text? value
    let operator ← member "operator" Json.text? value
    let values ← member "values" (Json.listOf Json.text?) value
    return (Selector.Operator.ofName? (operator.getD "")).map fun operator =>
      ⟨key.getD "", operator, values.getD []⟩) value

def selector? : Json → Option Selector :=
  reading fun value => do
    let labels ← member "matchLabels" Selector.labelsOfJson? value
    let requirements ←
      member "matchExpressions" (Json.listOf requirement?) value
    return ⟨labels.getD ∅, (requirements.getD []).filterMap id⟩

def containerName? : Json → Option String :=
  reading fun value => do
    return (← member "name" Json.text? value).getD ""

def containers? : Json → Option (List String) :=
  reading fun value => do
    return (← member "containers" (Json.listOf containerName?) value).getD []

def template? : Json → Option PodTemplate :=
  reading fun value => do
    let metadata ← metadata? value
    let containers ← member "spec" containers? value
    return ⟨metadata.labels, containers.getD []⟩

/-- A listed controller with its qualified name. -/
abbrev Listed := QualifiedName × Controller

/-- Read the spec of a controller of a usual kind.  Without a selector it
selects everything; a template may be absent. -/
def controller? : Json → Option Controller :=
  reading fun spec => do
    let selector ← member "selector" selector? spec
    let template ← member "template" template? spec
    return ⟨some (selector.getD .any), template.getD .empty⟩

/-- Read a controller of a usual kind; without a full name it is skipped. -/
def usual? (kind : String) : Json → Option (Option Listed) :=
  reading fun value => do
    if saysOnly "apiVersion" "apps/v1" value && saysOnly "kind" kind value
    then
      let metadata ← metadata? value
      let controller ← member "spec" controller? value
      return metadata.id?.map fun id =>
        (id, controller.getD ⟨none, .empty⟩)
    else
      none

/-- Read a controller of an added kind; an unreadable selector or template
counts as absent. -/
def added? : Json → Option (Option Listed) :=
  reading fun value => do
    let metadata ← looseMetadata? value
    let spec := (value.member? "spec").getD .null
    let selector := spec.member? "selector" >>= selector?
    let template := spec.member? "template" >>= template?
    return metadata.id?.map fun id => (id, ⟨selector, template.getD .empty⟩)

def phase? : Json → Option (Option String) :=
  reading fun status => member "phase" Json.text? status

/-- Read a pod; without a full name it is skipped. -/
def pod? : Json → Option (Option Pod) :=
  reading fun value => do
    if saysOnly "apiVersion" "v1" value && saysOnly "kind" "Pod" value then
      let metadata ← metadata? value
      let containers ← member "spec" containers? value
      let phase ← member "status" phase? value
      return metadata.id?.map fun id =>
        ⟨id, metadata.labels, containers.getD [], phase.join⟩
    else
      none

/-- The usual kinds of controllers with the plurals that paths and messages
use. -/
def usualKinds : List (String × String) :=
  [("Deployment", "deployments"), ("DaemonSet", "daemonsets"),
    ("ReplicaSet", "replicasets"), ("StatefulSet", "statefulsets")]

abbrev Controllers := SortedMap ControllerName Controller

def addAll (kind : String) (controllers : Controllers)
    (listed : List (Option Listed)) : Controllers :=
  (listed.filterMap id).foldl
    (fun controllers (name, controller) =>
      controllers.insert ⟨kind, name.scope, name.name⟩ controller)
    controllers

def listUsual (server : Http.Server) (controllers : Controllers)
    (kind : String × String) : Http.Exchange BackendFault Controllers := do
  let (kind, plural) := kind
  let listed ← list server (ApiKind.listPath ⟨"apps", "v1", kind, plural⟩)
    plural (usual? kind)
  return addAll kind controllers listed

/-- Add the controllers of an added kind, or none if it fails. -/
def listAdded (server : Http.Server) (controllers : Controllers)
    (kind : ApiKind) : Http.Exchange BackendFault Controllers := do
  let listed ←
    (list server kind.listPath kind.kind added?).orElse []
  return addAll kind.kind controllers listed

def cluster (server : Http.Server) (addedKinds : List ApiKind) :
    Http.Exchange BackendFault Cluster := do
  let usual ← usualKinds.foldlM (listUsual server) ∅
  let controllers ← addedKinds.foldlM (listAdded server) usual
  let pods ← list server "/api/v1/pods" "pods" pod?
  return ⟨controllers, pods.filterMap id⟩

end UsageForecast.Listing
