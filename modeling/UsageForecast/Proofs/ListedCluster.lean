import UsageForecast.Proofs.ApiObjects

/-!
# The cluster as its API lists it

If a server lists the controllers and pods of a cluster, then the view that is
read off its answers has the last listed controller of each name and the pods
with a full name in their order.
-/

namespace UsageForecast

namespace Http.Exchange

variable {ε β γ : Type}

theorem outcome_bind (exchange : Exchange ε β) (next : β → Exchange ε γ) :
    (exchange >>= next).outcome =
      exchange.outcome >>= fun value => (next value).outcome := by
  change (exchange.andThen next).outcome = _
  unfold andThen
  cases exchange.outcome <;> rfl

/-- If every step of a loop succeeds, its outcome is that of a fold. -/
theorem outcome_foldlM {step : β → γ → Exchange ε β} {next : β → γ → β}
    {members : List γ}
    (each : ∀ member ∈ members, ∀ state,
      (step state member).outcome = .ok (next state member))
    (start : β) :
    (members.foldlM step start).outcome =
      .ok (members.foldl next start) := by
  induction members generalizing start with
  | nil => rfl
  | cons member members induction =>
      obtain ⟨first, others⟩ := List.forall_mem_cons.1 each
      rw [List.foldlM_cons, outcome_bind, first]
      exact induction others _

end Http.Exchange

namespace ApiObject

open Http (Server Exchange)

/-- The form of a list of objects. -/
structure AnswerForm {ε : Type} (form : ε → Json → Prop) (parts : List ε)
    (value : Json) : Prop where
  object : IsObject value
  metadata : value.member? "metadata" = none ∨
    ∃ metadata, value.member? "metadata" = some metadata ∧ IsObject metadata
  items : value.member? "items" = some .null ∧ parts = [] ∨
    ∃ items, value.member? "items" = some items ∧ ListForm form parts items

/-- A server answers a request for a list with some objects. -/
def Serves {ε : Type} (server : Server) (path : String)
    (form : ε → Json → Prop) (parts : List ε) : Prop :=
  ∃ response answer, server (.read path) = some response ∧
    Http.Status.isError response.status = false ∧
      Json.ofText? response.body = some answer ∧
        AnswerForm form parts answer

variable {ε δ : Type} {decode : Json → Option δ} {form : ε → Json → Prop}
  {kept : ε → δ}

theorem Reads.answer (reads : Reads decode form kept) :
    Reads (items? decode) (AnswerForm form) (List.map kept) := by
  rintro parts value ⟨object, metadata, items⟩
  rw [items?, reading_object object]
  rcases items with ⟨null, rfl⟩ | ⟨found, present, formed⟩
  · rw [null]
    rcases metadata with absent | ⟨_, named, _, rfl⟩
    · rw [absent]
      rfl
    · rw [named]
      rfl
  · have read := reads.list parts found formed
    obtain ⟨items, rfl, -⟩ := formed
    rw [present]
    rcases metadata with absent | ⟨_, named, _, rfl⟩
    · rw [absent]
      exact read
    · rw [named]
      exact read

theorem outcome_list {server : Server} {path : String}
    {response : Http.Response}
    (reached : server (.read path) = some response) (subject : String)
    (decode : Json → Option δ) :
    (ApiObject.list server path subject decode).outcome =
      match body? (items? decode) response with
      | some items => .ok items
      | none => .error (.listing subject) := by
  rw [ApiObject.list, Exchange.outcome_bind, Exchange.ask, reached]
  change (match some response >>= body? (items? decode) with
    | some items => pure items
    | none => Exchange.ofExcept (.error (.listing subject)) :
      Exchange BackendFault (List δ)).outcome = _
  rw [Option.bind_eq_bind, Option.bind_some]
  cases body? (items? decode) response <;> rfl

theorem Reads.outcome_list (reads : Reads decode form kept)
    {server : Server} {path : String} {parts : List ε}
    (serves : Serves server path form parts) (subject : String) :
    (ApiObject.list server path subject decode).outcome =
      .ok (parts.map kept) := by
  obtain ⟨response, answer, reached, success, text, formed⟩ := serves
  have read : body? (items? decode) response = some (parts.map kept) := by
    rw [body?, success, text]
    exact reads.answer parts answer formed
  rw [ApiObject.outcome_list reached, read]

end ApiObject

open ApiObject

/-- What the API lists of a cluster. -/
structure ClusterObjects where
  /-- The controllers of each usual kind. -/
  usual : String → List ControllerObject
  /-- The controllers of an added kind, unless it cannot be listed. -/
  added : ApiKind → Option (List ControllerObject)
  pods : List PodObject

namespace ClusterObjects

structure ServedBy (objects : ClusterObjects) (server : Http.Server)
    (addedKinds : List ApiKind) : Prop where
  usual : ∀ kind ∈ Listing.usualKinds,
    Serves server (ApiKind.listPath ⟨"apps", "v1", kind.1, kind.2⟩)
      (UsualForm kind.1) (objects.usual kind.1)
  added : ∀ kind ∈ addedKinds,
    (∃ controllers, objects.added kind = some controllers ∧
      Serves server kind.listPath AddedForm controllers) ∨
    objects.added kind = none ∧ ∃ fault,
      (list server kind.listPath kind.kind Listing.added?).outcome =
        .error fault
  pods : Serves server "/api/v1/pods" PodForm objects.pods

/-- The listed controllers with their kinds, in the order of the listing. -/
def controllers (objects : ClusterObjects) (addedKinds : List ApiKind) :
    List (String × ControllerObject) :=
  (Listing.usualKinds.flatMap fun kind =>
    (objects.usual kind.1).map fun controller => (kind.1, controller)) ++
  addedKinds.flatMap fun kind =>
    ((objects.added kind).getD []).map fun controller =>
      (kind.kind, controller)

/-- The pods that have a full name. -/
def knownPods (objects : ClusterObjects) : List Pod :=
  objects.pods.filterMap PodObject.kept?

/-- What is kept of a listed controller under its name. -/
def entry? (listed : String × ControllerObject) :
    Option (ControllerName × Controller) :=
  listed.2.kept?.map fun kept =>
    (⟨listed.1, kept.1.scope, kept.1.name⟩, kept.2)

/-- The cluster as the resolver sees it. -/
def view (objects : ClusterObjects) (addedKinds : List ApiKind) : Cluster :=
  ⟨.ofList ((objects.controllers addedKinds).filterMap entry?),
    objects.knownPods⟩

theorem addAll_eq (kind : String) (known : Listing.Controllers)
    (listed : List ControllerObject) :
    Listing.addAll kind known (listed.map ControllerObject.kept?) =
      known.insertAll ((listed.map fun controller =>
        (kind, controller)).filterMap entry?) := by
  have entries : (listed.map fun controller =>
      (kind, controller)).filterMap entry? =
        (listed.filterMap ControllerObject.kept?).map fun kept =>
          (⟨kind, kept.1.scope, kept.1.name⟩, kept.2) := by
    rw [List.filterMap_map, List.map_filterMap]
    rfl
  rw [Listing.addAll, SortedMap.insertAll, entries, List.filterMap_map,
    List.foldl_map]
  rfl

/-- Kinds that are added one after another are added as one list. -/
theorem foldl_addAll {ι : Type} (kinds : List ι) (name : ι → String)
    (listed : ι → List ControllerObject) (known : Listing.Controllers) :
    kinds.foldl (fun known kind => Listing.addAll (name kind) known
        ((listed kind).map ControllerObject.kept?)) known =
      known.insertAll ((kinds.flatMap fun kind =>
        (listed kind).map fun controller =>
          (name kind, controller)).filterMap entry?) := by
  rw [List.filterMap_flatMap, SortedMap.insertAll, List.foldl_flatMap]
  simp only [addAll_eq]
  rfl

variable {objects : ClusterObjects} {server : Http.Server}
  {addedKinds : List ApiKind}

theorem ServedBy.outcome_usual (served : objects.ServedBy server addedKinds)
    (known : Listing.Controllers) :
    (Listing.usualKinds.foldlM (Listing.listUsual server) known).outcome =
      .ok (known.insertAll ((Listing.usualKinds.flatMap fun kind =>
        (objects.usual kind.1).map fun controller =>
          (kind.1, controller)).filterMap entry?)) := by
  rw [← foldl_addAll]
  refine Http.Exchange.outcome_foldlM (fun kind listed known => ?_) known
  rw [Listing.listUsual, Http.Exchange.outcome_bind,
    (reads_usual kind.1).outcome_list (served.usual kind listed)]
  rfl

theorem ServedBy.outcome_added (served : objects.ServedBy server addedKinds)
    (known : Listing.Controllers) :
    (addedKinds.foldlM (Listing.listAdded server) known).outcome =
      .ok (known.insertAll ((addedKinds.flatMap fun kind =>
        ((objects.added kind).getD []).map fun controller =>
          (kind.kind, controller)).filterMap entry?)) := by
  rw [← foldl_addAll]
  refine Http.Exchange.outcome_foldlM (fun kind listed known => ?_) known
  rw [Listing.listAdded, Http.Exchange.outcome_bind]
  rcases served.added kind listed with
    ⟨controllers, shown, serves⟩ | ⟨hidden, fault, failed⟩
  · rw [Http.Exchange.orElse, reads_added.outcome_list serves, shown]
    rfl
  · rw [Http.Exchange.orElse, failed, hidden]
    rfl

/-- The view that is read off the answers of a server. -/
theorem ServedBy.outcome_cluster
    (served : objects.ServedBy server addedKinds) :
    (Listing.cluster server addedKinds).outcome =
      .ok (objects.view addedKinds) := by
  rw [Listing.cluster, Http.Exchange.outcome_bind, served.outcome_usual,
    view, controllers, List.filterMap_append]
  change (addedKinds.foldlM (Listing.listAdded server) _ >>= _).outcome = _
  rw [Http.Exchange.outcome_bind, served.outcome_added]
  change (list server "/api/v1/pods" "pods" Listing.pod? >>= _).outcome = _
  rw [Http.Exchange.outcome_bind, reads_pod.outcome_list served.pods]
  change Except.ok _ = _
  rw [SortedMap.ofList, SortedMap.insertAll, SortedMap.insertAll,
    SortedMap.insertAll, List.foldl_append, List.filterMap_map]
  rfl

theorem kind_of_controllers {kind : String}
    {controller : ControllerObject}
    (listed : (kind, controller) ∈ objects.controllers addedKinds) :
    kind ∈ Resolver.usualKinds ∨ kind ∈ addedKinds.map ApiKind.kind := by
  rcases List.mem_append.1 listed with listed | listed
  · obtain ⟨usual, member, listed⟩ := List.mem_flatMap.1 listed
    obtain ⟨_, -, same⟩ := List.mem_map.1 listed
    obtain ⟨rfl, -⟩ := Prod.mk.inj same
    have names : Resolver.usualKinds =
        Listing.usualKinds.map Prod.fst := rfl
    exact .inl (names ▸ List.mem_map_of_mem member)
  · obtain ⟨added, member, listed⟩ := List.mem_flatMap.1 listed
    obtain ⟨_, -, same⟩ := List.mem_map.1 listed
    obtain ⟨rfl, -⟩ := Prod.mk.inj same
    exact .inr (List.mem_map_of_mem member)

end ClusterObjects

/-- A controller has the name of a workload. -/
structure ApiObject.ControllerObject.IsNamed (controller : ControllerObject)
    (workload : Workload) : Prop where
  scope : controller.metadata.scope = some workload.scope
  name : controller.metadata.name = some workload.name

namespace ClusterObjects

variable {objects : ClusterObjects} {addedKinds : List ApiKind}
  {workload : Workload} {controller : ControllerObject}

theorem entry?_of_named (named : controller.IsNamed workload) :
    entry? (workload.kind, controller) = some (.ofWorkload workload,
      ⟨controller.selector.map LabelSelector.kept,
        controller.template⟩) := by
  obtain ⟨⟨name, scope, labels⟩, selector, template⟩ := controller
  obtain ⟨rfl, rfl⟩ := named
  rfl

theorem named_of_entry? {kind : String} {kept : Controller}
    (entry : entry? (kind, controller) =
      some (.ofWorkload workload, kept)) :
    kind = workload.kind ∧ controller.IsNamed workload := by
  obtain ⟨⟨id, _⟩, found, same⟩ := Option.map_eq_some_iff.1 entry
  obtain ⟨names, -⟩ := Prod.mk.inj same
  obtain ⟨rfl, scope, name⟩ := ControllerName.mk.inj names
  obtain ⟨_, identified, same⟩ := Option.map_eq_some_iff.1 found
  obtain ⟨rfl, -⟩ := Prod.mk.inj same
  obtain ⟨_, foundScope, identified⟩ :=
    Option.bind_eq_some_iff.1 identified
  obtain ⟨_, foundName, identified⟩ :=
    Option.bind_eq_some_iff.1 identified
  obtain rfl := Option.some.inj identified
  exact ⟨rfl, foundScope.trans (congrArg some scope),
    foundName.trans (congrArg some name)⟩

/-- The view has no controller of a name iff none was listed. -/
theorem find?_view_eq_none_iff :
    (objects.view addedKinds).controllers.find? (.ofWorkload workload) =
        none ↔
      ∀ controller,
        (workload.kind, controller) ∈ objects.controllers addedKinds →
          ¬ controller.IsNamed workload := by
  rw [view, SortedMap.find?_eq_none_iff, SortedMap.mem_keys_ofList,
    List.map_filterMap, List.mem_filterMap]
  simp only [Option.map_eq_some_iff, not_exists, not_and, Prod.forall]
  constructor
  · intro absent controller listed named
    exact absent workload.kind controller listed _ _
      (entry?_of_named named) rfl
  · rintro unnamed kind controller listed _ kept entry rfl
    obtain ⟨rfl, named⟩ := named_of_entry? entry
    exact unnamed controller listed named

/-- Of several controllers of a name the view has the last one. -/
theorem find?_view_of_last {before after : List (String × ControllerObject)}
    (listed : objects.controllers addedKinds =
      before ++ (workload.kind, controller) :: after)
    (named : controller.IsNamed workload)
    (last : ∀ other, (workload.kind, other) ∈ after →
      ¬ other.IsNamed workload) :
    (objects.view addedKinds).controllers.find? (.ofWorkload workload) =
      some ⟨controller.selector.map LabelSelector.kept,
        controller.template⟩ := by
  have absent : (SortedMap.ofList (after.filterMap entry?)).find?
      (.ofWorkload workload) = none := by
    rw [SortedMap.find?_eq_none_iff, SortedMap.mem_keys_ofList]
    intro found
    obtain ⟨⟨_, kept⟩, member, rfl⟩ := List.mem_map.1 found
    obtain ⟨⟨kind, other⟩, later, entry⟩ := List.mem_filterMap.1 member
    obtain ⟨rfl, same⟩ := named_of_entry? entry
    exact last other later same
  rw [view, listed, List.filterMap_append, List.filterMap_cons,
    entry?_of_named named]
  dsimp only
  rw [SortedMap.find?_ofList_middle, absent, if_pos rfl, Option.none_or]

end ClusterObjects

end UsageForecast
