import UsageForecast.Cache
import UsageForecast.Cluster.Pod
import UsageForecast.Failure
import UsageForecast.Target

/-!
# The cluster and the resolver of targets

The resolver keeps the last good view of the cluster's controllers and pods
and finds the pods that a target covers: the active pods of its namespace that
its selector takes, sorted by name.
-/

namespace UsageForecast

/-- The name of a controller among all kinds. -/
structure ControllerName where
  kind : String
  scope : String
  name : String
deriving DecidableEq, Repr, Inhabited

namespace ControllerName

abbrev order : ControllerName → ControllerName → Ordering :=
  compareLex (compareOn kind) (compareLex (compareOn scope) (compareOn name))

instance : Ord ControllerName := ⟨order⟩

instance : Std.TransOrd ControllerName :=
  inferInstanceAs (Std.TransCmp order)

instance : Std.LawfulEqOrd ControllerName where
  eq_of_compare {left right} same := by
    obtain ⟨kinds, rest⟩ := key_eq_and_then same
    obtain ⟨scopes, rest⟩ := key_eq_and_then rest
    have names := key_eq rest
    cases left
    cases right
    simp_all

def ofWorkload (workload : Workload) : ControllerName :=
  ⟨workload.kind, workload.scope, workload.name⟩

end ControllerName

structure Controller where
  selector : Option Selector
  template : PodTemplate
deriving DecidableEq, Inhabited

/-- A view of the controllers and pods of a cluster. -/
structure Cluster where
  controllers : SortedMap ControllerName Controller
  pods : List Pod
deriving DecidableEq, Inhabited

def Cluster.empty : Cluster := ⟨∅, []⟩

/-- The resolver of targets: the kinds it knows beyond the usual ones, and
its view of the cluster. -/
structure Resolver where
  extendedKinds : List String
  cache : Cache Cluster

namespace Resolver

def initial (extendedKinds : List String) : Resolver :=
  ⟨extendedKinds, Cache.empty⟩

/-- The kinds of controllers that every resolver knows. -/
def usualKinds : List String :=
  ["Deployment", "DaemonSet", "ReplicaSet", "StatefulSet"]

def supports (resolver : Resolver) (kind : String) : Bool :=
  usualKinds.contains kind || resolver.extendedKinds.contains kind

def cacheName : String := "workload-resolver"

def refresh (resolver : Resolver) (now : Instant)
    (outcome : Except String Cluster) : Resolver × Except Failure Unit :=
  let next := { resolver with cache := resolver.cache.refresh now outcome }
  match outcome with
  | .ok _ => (next, .ok ())
  | .error error => (next, .error (.unavailable s!"cluster view: {error}"))

def isSynced (resolver : Resolver) : Bool := resolver.cache.isSynced

/-- The last good view of the cluster. -/
def cluster (resolver : Resolver) : Except Failure Cluster :=
  match resolver.cache.snapshot with
  | some cluster => .ok cluster
  | none => .error (.unavailable "cluster view has not synced yet")

def controller (resolver : Resolver) (cluster : Cluster)
    (workload : Workload) : Except Failure Controller :=
  if resolver.supports workload.kind then
    match cluster.controllers.find? (.ofWorkload workload) with
    | some controller => .ok controller
    | none =>
        .error (.notFound workload.kind workload.scope workload.name)
  else
    .error (.unsupportedKind workload.kind)

def covers (scope : String) (selector : Selector) (pod : Pod) : Bool :=
  pod.id.scope == scope && pod.isActive && selector.accepts pod.labels

/-- The pods of a cluster that a selector covers in a namespace, sorted. -/
def select (cluster : Cluster) (scope : String) (selector : Selector) :
    List Pod :=
  (cluster.pods.filter (covers scope selector)).mergeSort
    fun left right => (compare left.id right.id).isLE

/-- The pods that a target covers, sorted.  A controller without a selector
owns nothing. -/
def pods (resolver : Resolver) (target : Target) :
    Except Failure (List Pod) := do
  let cluster ← resolver.cluster
  match target with
  | .pods scope selector => return select cluster scope selector
  | .workload workload =>
      let controller ← resolver.controller cluster workload
      match controller.selector with
      | some selector => return select cluster workload.scope selector
      | none => return []

def template (resolver : Resolver) (workload : Workload) :
    Except Failure PodTemplate := do
  let cluster ← resolver.cluster
  let controller ← resolver.controller cluster workload
  return controller.template

end Resolver

end UsageForecast
