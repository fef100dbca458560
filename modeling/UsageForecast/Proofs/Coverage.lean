import UsageForecast.Proofs.PodTotals
import UsageForecast.Proofs.WrittenObjects

/-!
# Which pods a target covers

The resolver finds for a target the pods of its namespace that have not ended
and whose labels its selector takes, in the order of their names.  Whether a
selector takes labels is told in terms of the operators that the cluster's API
names.
-/

namespace UsageForecast

namespace ApiObject

/-- Labels meet a demand on one of them; unknown operators are never met. -/
def Expression.Holds (expression : Expression) (labels : Labels) : Prop :=
  match expression.operator with
  | "In" =>
      ∃ value ∈ expression.values, labels.find? expression.key = some value
  | "NotIn" =>
      ∀ value ∈ expression.values, labels.find? expression.key ≠ some value
  | "Exists" => ∃ value, labels.find? expression.key = some value
  | "DoesNotExist" => labels.find? expression.key = none
  | _ => False

namespace LabelSelector

/-- The labels are as the selector demands. -/
structure Takes (selector : LabelSelector) (labels : Labels) : Prop where
  matched : ∀ key value, selector.matchLabels.find? key = some value →
    labels.find? key = some value
  met : ∀ expression ∈ selector.expressions, expression.Holds labels

/-- The operators of a selector are those that the resolver knows. -/
def Known (selector : LabelSelector) : Prop :=
  ∀ expression ∈ selector.expressions,
    expression.operator ∈ ["In", "NotIn", "Exists", "DoesNotExist"]

/-- The selector of a target as the API would write it. -/
def ofSelector (selector : Selector) : LabelSelector :=
  ⟨selector.matchLabels, selector.requirements.map fun requirement =>
    ⟨requirement.key, requirement.operator.name, requirement.values⟩⟩

theorem kept_ofSelector (selector : Selector) :
    (ofSelector selector).kept = selector := by
  have each : (Expression.kept? ∘ fun requirement : Selector.Requirement =>
      ⟨requirement.key, requirement.operator.name, requirement.values⟩) =
        some := by
    funext ⟨key, operator, values⟩
    cases operator <;> rfl
  simp only [kept, ofSelector, List.filterMap_map, each,
    List.filterMap_some]

theorem known_ofSelector (selector : Selector) :
    (ofSelector selector).Known := by
  intro expression listed
  obtain ⟨⟨key, operator, values⟩, -, rfl⟩ := List.mem_map.1 listed
  cases operator <;> simp [Selector.Operator.name]

end LabelSelector

/-- A demand with a known operator is kept with its meaning. -/
theorem Expression.kept?_of_known {expression : Expression}
    (known : expression.operator ∈ ["In", "NotIn", "Exists", "DoesNotExist"])
    (labels : Labels) :
    ∃ requirement, expression.kept? = some requirement ∧
      (requirement.accepts labels = true ↔ expression.Holds labels) := by
  obtain ⟨key, operator, values⟩ := expression
  simp only [List.mem_cons, List.not_mem_nil, or_false] at known
  unfold Expression.Holds
  rcases known with rfl | rfl | rfl | rfl
  · refine ⟨⟨key, .among, values⟩, rfl, ?_⟩
    unfold Selector.Requirement.accepts
    cases labels.find? key <;> simp
  · refine ⟨⟨key, .notAmong, values⟩, rfl, ?_⟩
    unfold Selector.Requirement.accepts
    cases labels.find? key with
    | none => simp
    | some value => simp [List.forall_mem_ne]
  · refine ⟨⟨key, .present, values⟩, rfl, ?_⟩
    unfold Selector.Requirement.accepts
    simp [Option.isSome_iff_exists]
  · refine ⟨⟨key, .absent, values⟩, rfl, ?_⟩
    unfold Selector.Requirement.accepts
    simp

/-- A selector with known operators is kept with its meaning. -/
theorem LabelSelector.accepts_kept_iff {selector : LabelSelector}
    (known : selector.Known) {labels : Labels} :
    selector.kept.accepts labels = true ↔ selector.Takes labels := by
  have met : ((selector.expressions.filterMap Expression.kept?).all
      fun requirement => requirement.accepts labels) = true ↔
        ∀ expression ∈ selector.expressions, expression.Holds labels := by
    rw [List.all_eq_true]
    constructor
    · intro all expression listed
      obtain ⟨requirement, kept, same⟩ :=
        Expression.kept?_of_known (known expression listed) labels
      exact same.1 (all requirement
        (List.mem_filterMap.2 ⟨expression, listed, kept⟩))
    · intro all requirement member
      obtain ⟨expression, listed, kept⟩ := List.mem_filterMap.1 member
      obtain ⟨other, same, meaning⟩ :=
        Expression.kept?_of_known (known expression listed) labels
      obtain rfl := Option.some.inj (kept.symm.trans same)
      exact meaning.2 (all expression listed)
  rw [Selector.accepts, Bool.and_eq_true, LabelSelector.kept, met,
    List.all_eq_true]
  constructor
  · rintro ⟨matched, all⟩
    refine ⟨fun key value demanded => ?_, all⟩
    exact beq_iff_eq.1
      (matched _ (SortedMap.find?_eq_some_iff.1 demanded))
  · rintro ⟨matched, all⟩
    refine ⟨fun entry member => beq_iff_eq.2 ?_, all⟩
    exact matched _ _ (SortedMap.find?_eq_some_iff.2 member)

end ApiObject

namespace Resolver

open ApiObject

theorem select_perm (cluster : Cluster) (scope : String)
    (selector : Selector) :
    (select cluster scope selector).Perm
      (cluster.pods.filter (covers scope selector)) :=
  List.mergeSort_perm _ _

/-- Pods with different names are selected in the strict order of their
names. -/
theorem ascending_select {cluster : Cluster}
    (identified : (cluster.pods.map Pod.id).Nodup) (scope : String)
    (selector : Selector) :
    (select cluster scope selector).Pairwise fun left right =>
      compare left.id right.id = .lt := by
  have transitive (left middle right : Pod)
      (before : (compare left.id middle.id).isLE = true)
      (after : (compare middle.id right.id).isLE = true) :
      (compare left.id right.id).isLE = true :=
    Std.TransCmp.isLE_trans before after
  have total (left right : Pod) :
      ((compare left.id right.id).isLE ||
        (compare right.id left.id).isLE) = true := by
    have swap : compare right.id left.id =
        (compare left.id right.id).swap := Std.OrientedCmp.eq_swap
    rw [swap]
    cases compare left.id right.id <;> rfl
  have ordered : (select cluster scope selector).Pairwise fun left right =>
      (compare left.id right.id).isLE = true :=
    List.pairwise_mergeSort transitive total _
  -- The sort alone leaves equal names next to each other.
  have different : (select cluster scope selector).Pairwise
      fun left right => left.id ≠ right.id :=
    List.pairwise_map.1 (nodup_select identified scope selector)
  refine (ordered.and different).imp fun {left right} both => ?_
  cases order : compare left.id right.id with
  | lt => rfl
  | eq => exact absurd (Std.LawfulEqCmp.eq_of_compare order) both.2
  | gt =>
      rw [order] at both
      cases both.1

/-- The order in which pods with different names are listed does not matter
for a selection. -/
theorem select_of_perm {left right : Cluster}
    (identified : (left.pods.map Pod.id).Nodup)
    (same : right.pods.Perm left.pods) (scope : String)
    (selector : Selector) :
    select right scope selector = select left scope selector := by
  refine eq_of_mem_iff_of_below Pod.id
    (ascending_select ((same.map Pod.id).nodup_iff.2 identified) _ _)
    (ascending_select identified _ _) fun pod => ?_
  rw [(select_perm right scope selector).mem_iff,
    (select_perm left scope selector).mem_iff]
  exact (same.filter _).mem_iff

/-- Some pods are those of a namespace that have not ended and whose labels
are taken, each as often as it was listed; pods with different names come in
the order of their names. -/
structure Covered (listed : List Pod) (scope : String)
    (taken : Labels → Prop) (found : List Pod) : Prop where
  mem_iff : ∀ pod, pod ∈ found ↔ pod ∈ listed ∧ pod.id.scope = scope ∧
    pod.phase ≠ some "Succeeded" ∧ pod.phase ≠ some "Failed" ∧
      taken pod.labels
  count_eq : ∀ pod ∈ found, found.count pod = listed.count pod
  ascending : (listed.map Pod.id).Nodup → found.Pairwise fun left right =>
    compare left.id right.id = .lt

theorem covers_iff {scope : String} {selector : LabelSelector}
    (known : selector.Known) {pod : Pod} :
    covers scope selector.kept pod = true ↔ pod.id.scope = scope ∧
      pod.phase ≠ some "Succeeded" ∧ pod.phase ≠ some "Failed" ∧
        selector.Takes pod.labels := by
  have active : pod.isActive = true ↔
      pod.phase ≠ some "Succeeded" ∧ pod.phase ≠ some "Failed" := by
    unfold Pod.isActive
    cases pod.phase <;> simp [Pod.isTerminal]
  rw [covers, Bool.and_eq_true, Bool.and_eq_true, beq_iff_eq, active,
    LabelSelector.accepts_kept_iff known, and_assoc, and_assoc]

theorem covered_select (cluster : Cluster) (scope : String)
    {selector : LabelSelector} (known : selector.Known) :
    Covered cluster.pods scope selector.Takes
      (select cluster scope selector.kept) where
  mem_iff := by
    intro pod
    rw [(select_perm cluster scope selector.kept).mem_iff, List.mem_filter,
      covers_iff known]
  count_eq := by
    intro pod found
    have same := select_perm cluster scope selector.kept
    rw [same.count_eq, List.count_filter]
    exact (List.mem_filter.1 (same.mem_iff.1 found)).2
  ascending := fun identified => ascending_select identified scope _

section

variable {resolver : Resolver} {cluster : Cluster}

theorem pods_of_selector (known : resolver.cluster = .ok cluster)
    (scope : String) (selector : Selector) :
    resolver.pods (.pods scope selector) =
      .ok (select cluster scope selector) := by
  rw [pods, known]
  rfl

theorem pods_of_workload (known : resolver.cluster = .ok cluster)
    (workload : Workload) :
    resolver.pods (.workload workload) =
      if resolver.supports workload.kind then
        match cluster.controllers.find? (.ofWorkload workload) with
        | none =>
            .error (.notFound workload.kind workload.scope workload.name)
        | some controller =>
            .ok ((controller.selector.map
              (select cluster workload.scope)).getD [])
      else .error (.unsupportedKind workload.kind) := by
  rw [pods, known]
  change (resolver.controller cluster workload >>= _) = _
  unfold controller
  split
  · cases cluster.controllers.find? (.ofWorkload workload) with
    | none => rfl
    | some controller => cases owned : controller.selector <;>
        simp [bind, Except.bind, pure, Except.pure, owned]
  · rfl

theorem supports_iff {kind : String} :
    resolver.supports kind = true ↔
      kind ∈ usualKinds ∨ kind ∈ resolver.extendedKinds := by
  rw [supports, Bool.or_eq_true, List.contains_iff_mem,
    List.contains_iff_mem]

end

/-- The resolver after a listing of the cluster. -/
def listing (resolver : Resolver) (now : Instant)
    (explain : BackendFault → String) (addedKinds : List ApiKind)
    (server : Http.Server) : Resolver :=
  (resolver.refresh now
    ((Listing.cluster server addedKinds).outcome.mapError explain)).1

section

variable {resolver : Resolver} {now : Instant}
  {explain : BackendFault → String} {objects : ClusterObjects}
  {server : Http.Server} {addedKinds : List ApiKind}

theorem cluster_listing (served : objects.ServedBy server addedKinds) :
    (resolver.listing now explain addedKinds server).cluster =
      .ok (objects.view addedKinds) := by
  rw [listing, served.outcome_cluster]
  rfl

theorem extendedKinds_listing :
    (resolver.listing now explain addedKinds server).extendedKinds =
      resolver.extendedKinds := by
  unfold listing
  cases (Listing.cluster server addedKinds).outcome <;> rfl

theorem supports_listing
    (configured : resolver.extendedKinds = addedKinds.map ApiKind.kind)
    {kind : String} :
    (resolver.listing now explain addedKinds server).supports kind = true ↔
      kind ∈ usualKinds ∨ kind ∈ addedKinds.map ApiKind.kind := by
  rw [supports_iff, extendedKinds_listing, configured]

theorem covered_of_listing (served : objects.ServedBy server addedKinds)
    (scope : String) (selector : Selector) :
    ∃ found, (resolver.listing now explain addedKinds server).pods
        (.pods scope selector) = .ok found ∧
      Covered objects.knownPods scope
        (LabelSelector.ofSelector selector).Takes found := by
  refine ⟨_, pods_of_selector (cluster_listing served) scope selector, ?_⟩
  have covered := covered_select (objects.view addedKinds) scope
    (LabelSelector.known_ofSelector selector)
  rw [LabelSelector.kept_ofSelector] at covered
  exact covered

/-- The last listed controller of a name decides what a workload covers. -/
theorem pods_of_last (served : objects.ServedBy server addedKinds)
    (configured : resolver.extendedKinds = addedKinds.map ApiKind.kind)
    {workload : Workload} {controller : ControllerObject}
    {before after : List (String × ControllerObject)}
    (listed : objects.controllers addedKinds =
      before ++ (workload.kind, controller) :: after)
    (named : controller.IsNamed workload)
    (last : ∀ other, (workload.kind, other) ∈ after →
      ¬ other.IsNamed workload) :
    (resolver.listing now explain addedKinds server).pods
        (.workload workload) =
      .ok ((controller.selector.map fun selector =>
        select (objects.view addedKinds) workload.scope
          selector.kept).getD []) := by
  have member : (workload.kind, controller) ∈
      objects.controllers addedKinds := by
    rw [listed]
    exact List.mem_append_right _ List.mem_cons_self
  rw [pods_of_workload (cluster_listing served),
    if_pos ((supports_listing configured).2
      (ClusterObjects.kind_of_controllers member)),
    ClusterObjects.find?_view_of_last listed named last]
  cases controller.selector <;> rfl

/-- The kinds that the resolver does not know are refused. -/
theorem pods_eq_unsupported_iff
    (served : objects.ServedBy server addedKinds)
    (configured : resolver.extendedKinds = addedKinds.map ApiKind.kind)
    {workload : Workload} {kind : String} :
    (resolver.listing now explain addedKinds server).pods
        (.workload workload) = .error (.unsupportedKind kind) ↔
      kind = workload.kind ∧ ¬ (workload.kind ∈ usualKinds ∨
        workload.kind ∈ addedKinds.map ApiKind.kind) := by
  have known : (resolver.listing now explain addedKinds server).supports
      workload.kind = true ↔ _ := supports_listing configured
  rw [pods_of_workload (cluster_listing served), ← known]
  split
  next supported =>
    refine iff_of_false ?_ fun refused => refused.2 supported
    split <;> nofun
  next unsupported =>
    rw [Except.error.injEq, Failure.unsupportedKind.injEq]
    exact ⟨fun same => ⟨same.symm, unsupported⟩, fun refused =>
      refused.1.symm⟩

/-- The workloads of which no controller was listed are not found. -/
theorem pods_eq_notFound_iff (served : objects.ServedBy server addedKinds)
    (configured : resolver.extendedKinds = addedKinds.map ApiKind.kind)
    {workload : Workload} {kind scope name : String} :
    (resolver.listing now explain addedKinds server).pods
        (.workload workload) = .error (.notFound kind scope name) ↔
      (kind, scope, name) =
          (workload.kind, workload.scope, workload.name) ∧
        (workload.kind ∈ usualKinds ∨
          workload.kind ∈ addedKinds.map ApiKind.kind) ∧
        ∀ controller,
          (workload.kind, controller) ∈ objects.controllers addedKinds →
            ¬ controller.IsNamed workload := by
  have known : (resolver.listing now explain addedKinds server).supports
      workload.kind = true ↔ _ := supports_listing configured
  rw [pods_of_workload (cluster_listing served), ← known,
    ← ClusterObjects.find?_view_eq_none_iff]
  split
  next supported =>
    cases (objects.view addedKinds).controllers.find?
        (.ofWorkload workload) with
    | none =>
        rw [Except.error.injEq, Failure.notFound.injEq, Prod.mk.injEq,
          Prod.mk.injEq]
        constructor
        · rintro ⟨rfl, rfl, rfl⟩
          exact ⟨⟨rfl, rfl, rfl⟩, supported, rfl⟩
        · rintro ⟨⟨rfl, rfl, rfl⟩, -⟩
          exact ⟨rfl, rfl, rfl⟩
    | some controller => exact iff_of_false nofun fun missing =>
        Option.some_ne_none controller missing.2.2
  next unsupported =>
    exact iff_of_false nofun fun missing => unsupported missing.2.1

/-- Pods with different names are found in one order, however they were
listed. -/
theorem pods_of_perm (served : objects.ServedBy server addedKinds)
    (identified : (objects.knownPods.map Pod.id).Nodup)
    {others : ClusterObjects} {otherServer : Http.Server}
    (othersServed : others.ServedBy otherServer addedKinds)
    (usual : others.usual = objects.usual)
    (added : others.added = objects.added)
    (same : others.pods.Perm objects.pods) (target : Target) :
    (resolver.listing now explain addedKinds otherServer).pods target =
      (resolver.listing now explain addedKinds server).pods target := by
  have controllers : (others.view addedKinds).controllers =
      (objects.view addedKinds).controllers := by
    rw [ClusterObjects.view, ClusterObjects.view,
      ClusterObjects.controllers, ClusterObjects.controllers, usual, added]
  have selected (scope : String) (selector : Selector) :
      select (others.view addedKinds) scope selector =
        select (objects.view addedKinds) scope selector :=
    select_of_perm identified (same.filterMap _) scope selector
  cases target with
  | pods scope selector =>
      rw [pods_of_selector (cluster_listing othersServed),
        pods_of_selector (cluster_listing served), selected]
  | workload workload =>
      rw [pods_of_workload (cluster_listing othersServed),
        pods_of_workload (cluster_listing served), controllers, supports,
        supports, extendedKinds_listing, extendedKinds_listing,
        funext (selected workload.scope)]

end

/-- What the resolver finds for a target, if the API lists some objects: the
pods that the selector of the target covers, none for a controller without
a selector, and a failure for a kind that is not known and for a workload
without a controller. -/
theorem pods_as_listed {objects : ClusterObjects} {server : Http.Server}
    {addedKinds : List ApiKind}
    (served : objects.ServedBy server addedKinds) {resolver : Resolver}
    (configured : resolver.extendedKinds = addedKinds.map ApiKind.kind)
    (now : Instant) (explain : BackendFault → String) :
    let refreshed := resolver.listing now explain addedKinds
    let next := refreshed server
    let controllers := objects.controllers addedKinds
    let Supported (kind : String) :=
      kind ∈ usualKinds ∨ kind ∈ addedKinds.map ApiKind.kind
    (∀ scope selector, ∃ found,
      next.pods (.pods scope selector) = .ok found ∧
      Covered objects.knownPods scope
        (LabelSelector.ofSelector selector).Takes found) ∧
    (∀ workload before controller after,
      controllers = before ++ (workload.kind, controller) :: after →
      controller.IsNamed workload →
      (∀ other, (workload.kind, other) ∈ after →
        ¬ other.IsNamed workload) →
      (controller.selector = none →
        next.pods (.workload workload) = .ok []) ∧
      ∀ selector, controller.selector = some selector → selector.Known →
        ∃ found, next.pods (.workload workload) = .ok found ∧
          Covered objects.knownPods workload.scope selector.Takes found) ∧
    (∀ workload kind,
      next.pods (.workload workload) = .error (.unsupportedKind kind) ↔
        kind = workload.kind ∧ ¬ Supported workload.kind) ∧
    (∀ workload kind scope name,
      next.pods (.workload workload) = .error (.notFound kind scope name) ↔
        (kind, scope, name) =
            (workload.kind, workload.scope, workload.name) ∧
          Supported workload.kind ∧ ∀ controller,
            (workload.kind, controller) ∈ controllers →
              ¬ controller.IsNamed workload) ∧
    ((objects.knownPods.map Pod.id).Nodup →
      ∀ (others : ClusterObjects) (otherServer : Http.Server),
        others.ServedBy otherServer addedKinds →
        others.usual = objects.usual → others.added = objects.added →
        others.pods.Perm objects.pods →
          ∀ target, (refreshed otherServer).pods target =
            next.pods target) := by
  intro refreshed next controllers Supported
  refine ⟨covered_of_listing served, ?_,
    fun workload kind => pods_eq_unsupported_iff served configured,
    fun workload kind scope name => pods_eq_notFound_iff served configured,
    fun identified others otherServer othersServed usual added same =>
      pods_of_perm served identified othersServed usual added same⟩
  intro workload before controller after listed named last
  have found : next.pods (.workload workload) = _ :=
    pods_of_last served configured listed named last
  constructor
  · intro free
    rw [found, free]
    rfl
  · intro selector owned known
    refine ⟨_, ?_, covered_select (objects.view addedKinds) workload.scope
      known⟩
    rw [found, owned]
    rfl

/-!
## A deployment and a rollout

The deployment's selector takes two of the listed pods; the rollout, of an
added kind, has no selector.
-/

namespace Web

def selector : LabelSelector :=
  ⟨.ofList [("app", "web")],
    [⟨"track", "NotIn", ["canary"]⟩, ⟨"paused", "DoesNotExist", []⟩]⟩

theorem known : selector.Known := by
  simp [LabelSelector.Known, selector]

def rollouts : ApiKind := ⟨"argoproj.io", "v1alpha1", "Rollout", "rollouts"⟩

def metadata (name : String) (labels : List (String × String)) : Metadata :=
  ⟨some name, some "default", .ofList labels⟩

def pod (name phase : String) (labels : List (String × String)) : PodObject :=
  ⟨metadata name (("app", "web") :: labels), ["app"], some phase⟩

def listed : List PodObject :=
  [pod "web-2" "Running" [], pod "web-1" "Pending" [("tier", "front")],
    pod "web-0" "Succeeded" [], pod "web-3" "Running" [("track", "canary")],
    ⟨⟨some "web-4", none, .ofList [("app", "web")]⟩, ["app"], none⟩]

def objects (pods : List PodObject) : ClusterObjects where
  usual := fun kind =>
    if kind = "Deployment" then
      [⟨metadata "web" [], some selector, .empty⟩]
    else []
  added := fun _ => some [⟨metadata "queue" [], none, ⟨∅, ["worker"]⟩⟩]
  pods := pods

def server (pods : List PodObject) : Http.Server :=
  (objects pods).server [rollouts]

theorem served (pods : List PodObject) :
    (objects pods).ServedBy (server pods) [rollouts] := by
  refine ClusterObjects.servedBy_server (by decide) fun kind _ => ?_
  change ∀ controller ∈ (if kind.1 = "Deployment" then _ else _), _
  split
  · simp [ControllerObject.IsUsual]
  · nofun

theorem identified : ((objects listed).knownPods.map Pod.id).Nodup := by
  decide +kernel

def expected : List Pod :=
  [⟨⟨"default", "web-1"⟩, .ofList [("app", "web"), ("tier", "front")],
      ["app"], some "Pending"⟩,
    ⟨⟨"default", "web-2"⟩, .ofList [("app", "web")], ["app"],
      some "Running"⟩]

theorem covered_eq {found : List Pod}
    (covered : Covered (objects listed).knownPods "default" selector.Takes
      found) : found = expected := by
  refine eq_of_mem_iff_of_below Pod.id (covered.ascending identified)
    (by decide +kernel) fun pod => ?_
  have taken : (objects listed).knownPods.filter
      (covers "default" selector.kept) = expected.reverse := by
    decide +kernel
  rw [covered.mem_iff, ← covers_iff known, ← List.mem_filter, taken,
    List.mem_reverse]

end Web

open Web in
/-- The deployment covers its two pods in order, the rollout covers none, and
neither another kind nor another deployment is found. -/
theorem web_pods_as_listed :
    let refreshed :=
      (initial ["Rollout"]).listing ⟨0, 0⟩ (fun _ => "") [rollouts]
    let next := refreshed (server listed)
    next.pods (.workload ⟨"Deployment", "web", "default", none⟩) =
      .ok expected ∧
    next.pods (.workload ⟨"Rollout", "queue", "default", none⟩) = .ok [] ∧
    next.pods (.workload ⟨"Job", "web", "default", none⟩) =
      .error (.unsupportedKind "Job") ∧
    next.pods (.workload ⟨"Deployment", "api", "default", none⟩) =
      .error (.notFound "Deployment" "default" "api") ∧
    ∀ target, (refreshed (server listed.reverse)).pods target =
      next.pods target := by
  intro refreshed next
  have configured : (initial ["Rollout"]).extendedKinds =
      [rollouts].map ApiKind.kind := rfl
  obtain ⟨-, workloads, unsupported, missing, ordered⟩ :=
    pods_as_listed (served listed) configured ⟨0, 0⟩ fun _ => ""
  have controllers : (objects listed).controllers [rollouts] =
      [("Deployment", ⟨metadata "web" [], some selector, .empty⟩),
        ("Rollout", ⟨metadata "queue" [], none, ⟨∅, ["worker"]⟩⟩)] := rfl
  refine ⟨?_, ?_, ?_, ?_, ?_⟩
  · obtain ⟨found, answer, covered⟩ :=
      (workloads ⟨"Deployment", "web", "default", none⟩ [] _ _ controllers
        ⟨rfl, rfl⟩ (by simp)).2 selector rfl known
    rw [← covered_eq covered]
    exact answer
  · exact (workloads ⟨"Rollout", "queue", "default", none⟩ [_] _ []
      controllers ⟨rfl, rfl⟩ nofun).1 rfl
  · exact (unsupported _ _).2 ⟨rfl, by decide⟩
  · refine (missing _ _ _ _).2 ⟨rfl, by decide, ?_⟩
    intro controller member named
    obtain rfl : controller = ⟨metadata "web" [], some selector, .empty⟩ := by
      simpa [controllers] using member
    exact absurd named.name (by decide)
  · exact ordered identified _ _ (served listed.reverse) rfl rfl
      (List.reverse_perm listed)

end Resolver

end UsageForecast
