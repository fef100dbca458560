import UsageForecast.Proofs.ListedCluster

/-!
# Writing the objects of the cluster's API

Every object whose form is described has a value of that form, and if the
kinds have paths of their own there is a server that lists a cluster.
-/

namespace UsageForecast

namespace ApiObject

/-- A written value has the form of what it was written for and is a text's
value, and it is never null. -/
structure Written {ε : Type} (form : ε → Json → Prop) (part : ε)
    (value : Json) : Prop where
  canonical : value.Canonical
  present : value ≠ .null
  formed : form part value

section

variable {ε : Type} {encode : ε → Json} {form : ε → Json → Prop}
  {object : Json} {name : String}

theorem Written.shows {shown : Option ε}
    (written : ∀ part ∈ shown, Written form part (encode part))
    (found : object.member? name = some (Json.ofOption encode shown)) :
    Shows form object name shown := by
  cases shown with
  | none => exact .inr found
  | some part =>
      obtain ⟨-, present, formed⟩ := written part rfl
      exact ⟨encode part, found, present, formed⟩

theorem Written.showsOr {absent part : ε} {value : Json}
    (written : Written form part value)
    (found : object.member? name = some value) :
    ShowsOr form object name absent part :=
  ⟨some part, ⟨value, found, written.present, written.formed⟩, rfl⟩

theorem Written.list (parts : List ε)
    (written : ∀ part ∈ parts, Written form part (encode part)) :
    Written (ListForm form) parts (.array (parts.map encode)) where
  canonical := Json.canonicalItems_iff.2 fun item listed => by
    obtain ⟨part, member, rfl⟩ := List.mem_map.1 listed
    exact (written part member).canonical
  present := nofun
  formed := ⟨_, rfl, List.forall₂_map_right_iff.2
    (List.forall₂_same.2 fun part member => (written part member).formed)⟩

theorem canonical_ofOption {shown : Option ε}
    (written : ∀ part ∈ shown, Written form part (encode part)) :
    (Json.ofOption encode shown).Canonical := by
  cases shown with
  | none => trivial
  | some part => exact (written part rfl).canonical

end

theorem written_text (text : String) :
    Written TextForm text (.string text) :=
  ⟨trivial, nofun, rfl⟩

theorem written_labels (labels : Labels) :
    Written LabelsForm labels (Selector.labelsToJson labels) where
  canonical := (Json.Faithful.map (fun _ => rfl) fun text _ =>
    Json.faithful_text text).canonical
  present := nofun
  formed := ⟨labels.entries, rfl, (SortedMap.ofList_entries labels).symm⟩

theorem written_texts (texts : List String) :
    Written (ListForm TextForm) texts (Json.ofStrings texts) :=
  Written.list texts fun text _ => written_text text

def Expression.toJson (expression : Expression) : Json :=
  .object [("key", .string expression.key),
    ("operator", .string expression.operator),
    ("values", Json.ofStrings expression.values)]

theorem written_expression (expression : Expression) :
    Written ExpressionForm expression expression.toJson where
  canonical := ⟨trivial, trivial,
    (written_texts expression.values).canonical, trivial⟩
  present := nofun
  formed := {
    object := ⟨_, rfl⟩
    key := (written_text expression.key).showsOr rfl
    operator := (written_text expression.operator).showsOr rfl
    values := (written_texts expression.values).showsOr rfl }

def LabelSelector.toJson (selector : LabelSelector) : Json :=
  .object [("matchLabels", Selector.labelsToJson selector.matchLabels),
    ("matchExpressions",
      .array (selector.expressions.map Expression.toJson))]

theorem written_selector (selector : LabelSelector) :
    Written SelectorForm selector selector.toJson := by
  have labels := written_labels selector.matchLabels
  have expressions := Written.list selector.expressions
    fun expression _ => written_expression expression
  exact {
    canonical := ⟨labels.canonical, expressions.canonical, trivial⟩
    present := nofun
    formed := ⟨⟨_, rfl⟩, labels.showsOr rfl, expressions.showsOr rfl⟩ }

def Metadata.toJson (metadata : Metadata) : Json :=
  .object [("name", Json.ofOption .string metadata.name),
    ("namespace", Json.ofOption .string metadata.scope),
    ("labels", Selector.labelsToJson metadata.labels)]

theorem written_metadata (metadata : Metadata) :
    Written MetadataForm metadata metadata.toJson := by
  have text (shown : Option String) (part : String) (_ : part ∈ shown) :
      Written TextForm part (.string part) := written_text part
  have labels := written_labels metadata.labels
  exact {
    canonical := ⟨canonical_ofOption (text metadata.name),
      canonical_ofOption (text metadata.scope), labels.canonical, trivial⟩
    present := nofun
    formed := ⟨⟨_, rfl⟩, Written.shows (text metadata.name) rfl,
      Written.shows (text metadata.scope) rfl, labels.showsOr rfl⟩ }

def containerToJson (name : String) : Json :=
  .object [("name", .string name)]

theorem written_container (name : String) :
    Written ContainerForm name (containerToJson name) where
  canonical := ⟨trivial, trivial⟩
  present := nofun
  formed := ⟨⟨_, rfl⟩, (written_text name).showsOr rfl⟩

def containersToJson (names : List String) : Json :=
  .object [("containers", .array (names.map containerToJson))]

theorem written_containers (names : List String) :
    Written ContainersForm names (containersToJson names) := by
  have containers := Written.list names fun name _ => written_container name
  exact {
    canonical := ⟨containers.canonical, trivial⟩
    present := nofun
    formed := ⟨⟨_, rfl⟩, containers.showsOr rfl⟩ }

def templateToJson (template : PodTemplate) : Json :=
  .object [("metadata", Metadata.toJson ⟨none, none, template.labels⟩),
    ("spec", containersToJson template.containers)]

theorem written_template (template : PodTemplate) :
    Written TemplateForm template (templateToJson template) := by
  have metadata := written_metadata ⟨none, none, template.labels⟩
  have containers := written_containers template.containers
  exact {
    canonical := ⟨metadata.canonical, containers.canonical, trivial⟩
    present := nofun
    formed := ⟨⟨_, rfl⟩, ⟨_, metadata.showsOr rfl, rfl⟩,
      containers.showsOr rfl⟩ }

def specToJson (spec : LabelSelector × PodTemplate) : Json :=
  .object [("selector", spec.1.toJson), ("template", templateToJson spec.2)]

theorem written_spec (spec : LabelSelector × PodTemplate) :
    Written SpecForm spec (specToJson spec) := by
  have selector := written_selector spec.1
  have template := written_template spec.2
  exact {
    canonical := ⟨selector.canonical, template.canonical, trivial⟩
    present := nofun
    formed := ⟨⟨_, rfl⟩, selector.showsOr rfl, template.showsOr rfl⟩ }

namespace ControllerObject

/-- A controller without a selector has no spec that could say what its pods
are created with. -/
def IsUsual (controller : ControllerObject) : Prop :=
  controller.selector = none → controller.template = .empty

def spec (controller : ControllerObject) :
    Option (LabelSelector × PodTemplate) :=
  controller.selector.map fun selector => (selector, controller.template)

def toJson (controller : ControllerObject) : Json :=
  .object [("metadata", controller.metadata.toJson),
    ("spec", Json.ofOption specToJson controller.spec)]

end ControllerObject

theorem written_usual (kind : String) {controller : ControllerObject}
    (usual : controller.IsUsual) :
    Written (UsualForm kind) controller controller.toJson := by
  have metadata := written_metadata controller.metadata
  have written (spec : LabelSelector × PodTemplate)
      (_ : spec ∈ controller.spec) : Written SpecForm spec (specToJson spec) :=
    written_spec spec
  have same : controller.selector = controller.spec.map Prod.fst ∧
      controller.template =
        (controller.spec.map Prod.snd).getD .empty := by
    unfold ControllerObject.spec
    cases selected : controller.selector with
    | none => exact ⟨rfl, usual selected⟩
    | some selector => exact ⟨rfl, rfl⟩
  exact {
    canonical := ⟨metadata.canonical, canonical_ofOption written, trivial⟩
    present := nofun
    formed := ⟨⟨_, rfl⟩, rfl, rfl, metadata.showsOr rfl,
      ⟨_, Written.shows written rfl, same⟩⟩ }

def statusToJson (phase : Option String) : Json :=
  .object [("phase", Json.ofOption .string phase)]

theorem written_status (phase : Option String) :
    Written StatusForm phase (statusToJson phase) := by
  have text (part : String) (_ : part ∈ phase) :
      Written TextForm part (.string part) := written_text part
  exact {
    canonical := ⟨canonical_ofOption text, trivial⟩
    present := nofun
    formed := ⟨⟨_, rfl⟩, Written.shows text rfl⟩ }

def PodObject.toJson (pod : PodObject) : Json :=
  .object [("metadata", pod.metadata.toJson),
    ("spec", containersToJson pod.containers),
    ("status", statusToJson pod.phase)]

theorem written_pod (pod : PodObject) :
    Written PodForm pod pod.toJson := by
  have metadata := written_metadata pod.metadata
  have containers := written_containers pod.containers
  have status := written_status pod.phase
  have shown : Shows StatusForm pod.toJson "status" (some pod.phase) :=
    ⟨_, rfl, status.present, status.formed⟩
  exact {
    canonical := ⟨metadata.canonical, containers.canonical,
      status.canonical, trivial⟩
    present := nofun
    formed := ⟨⟨_, rfl⟩, rfl, rfl, metadata.showsOr rfl,
      containers.showsOr rfl, ⟨_, shown, rfl⟩⟩ }

/-- A controller of an added kind may have a template without a selector. -/
def ControllerObject.addedJson (controller : ControllerObject) : Json :=
  .object [("metadata", controller.metadata.toJson),
    ("spec", .object [
      ("selector", Json.ofOption LabelSelector.toJson controller.selector),
      ("template", templateToJson controller.template)])]

theorem written_added (controller : ControllerObject) :
    Written AddedForm controller controller.addedJson := by
  have metadata := written_metadata controller.metadata
  have template := written_template controller.template
  have written (selector : LabelSelector)
      (_ : selector ∈ controller.selector) :
      Written SelectorForm selector selector.toJson :=
    written_selector selector
  have selected : ShowsReadable Listing.selector? SelectorForm
      (some (Json.ofOption LabelSelector.toJson controller.selector))
      controller.selector := by
    cases controller.selector with
    | none => rfl
    | some selector => exact ⟨_, rfl, (written_selector selector).formed⟩
  exact {
    canonical := ⟨metadata.canonical, ⟨canonical_ofOption written,
      template.canonical, trivial⟩, trivial⟩
    present := nofun
    formed := ⟨⟨_, rfl⟩, .inr ⟨_, rfl, metadata.formed⟩, selected,
      ⟨some controller.template, ⟨_, rfl, template.formed⟩, rfl⟩⟩ }

def answer (items : List Json) : Json := .object [("items", .array items)]

theorem written_answer {ε : Type} {encode : ε → Json}
    {form : ε → Json → Prop} (parts : List ε)
    (written : ∀ part ∈ parts, Written form part (encode part)) :
    Written (AnswerForm form) parts (answer (parts.map encode)) := by
  have items := Written.list parts written
  exact {
    canonical := ⟨items.canonical, trivial⟩
    present := nofun
    formed := ⟨⟨_, rfl⟩, .inl rfl, .inr ⟨_, rfl, items.formed⟩⟩ }

end ApiObject

namespace ClusterObjects

open ApiObject

def usualPath (kind : String × String) : String :=
  ApiKind.listPath ⟨"apps", "v1", kind.1, kind.2⟩

/-- The paths of all that is listed. -/
def paths (addedKinds : List ApiKind) : List String :=
  Listing.usualKinds.map usualPath ++
    "/api/v1/pods" :: addedKinds.map ApiKind.listPath

/-- What is answered for an added kind: no list, if it cannot be listed. -/
def addedAnswer (objects : ClusterObjects) (kind : ApiKind) : Json :=
  Json.ofOption (fun controllers =>
    answer (controllers.map ControllerObject.addedJson)) (objects.added kind)

/-- What is answered under each path. -/
def answers (objects : ClusterObjects) (addedKinds : List ApiKind) :
    List (String × Json) :=
  Listing.usualKinds.map (fun kind => (usualPath kind,
      answer ((objects.usual kind.1).map ControllerObject.toJson))) ++
    ("/api/v1/pods", answer (objects.pods.map PodObject.toJson)) ::
      addedKinds.map fun kind => (kind.listPath, objects.addedAnswer kind)

/-- A server that lists a cluster. -/
def server (objects : ClusterObjects) (addedKinds : List ApiKind) :
    Http.Server :=
  .ofResponses (.ofList ((objects.answers addedKinds).map
    fun (path, value) => (path, ⟨200, value.render⟩)))

variable {objects : ClusterObjects} {addedKinds : List ApiKind}
  {path : String} {value : Json}

theorem keys_answers :
    (objects.answers addedKinds).map Prod.fst = paths addedKinds := by
  simp [answers, paths, Function.comp_def]

theorem server_of_answer (separate : (paths addedKinds).Nodup)
    (listed : (path, value) ∈ objects.answers addedKinds) :
    objects.server addedKinds (.read path) = some ⟨200, value.render⟩ := by
  have found : (SortedMap.ofList ((objects.answers addedKinds).map
      fun (path, value) =>
        (path, (⟨200, value.render⟩ : Http.Response)))).find? path =
          some ⟨200, value.render⟩ := by
    refine SortedMap.find?_ofList_of_nodup ?_
      (List.mem_map.2 ⟨_, listed, rfl⟩)
    rw [List.map_map]
    exact keys_answers ▸ separate
  change some ((SortedMap.find? _ path).getD _) = _
  rw [found]
  rfl

theorem serves_of_answer {ε : Type} {form : ε → Json → Prop}
    {parts : List ε} (separate : (paths addedKinds).Nodup)
    (listed : (path, value) ∈ objects.answers addedKinds)
    (written : Written (AnswerForm form) parts value) :
    Serves (objects.server addedKinds) path form parts :=
  ⟨_, value, server_of_answer separate listed, rfl,
    Json.ofText?_render written.canonical, written.formed⟩

theorem outcome_list_of_null {ε : Type} {decode : Json → Option ε}
    {server : Http.Server} {subject : String}
    (reached : server (.read path) = some ⟨200, Json.null.render⟩) :
    (list server path subject decode).outcome =
      .error (.listing subject) := by
  have text : Json.ofText? Json.null.render = some .null :=
    Json.ofText?_render trivial
  have unreadable :
      body? (items? decode) ⟨200, Json.null.render⟩ = none := by
    rw [body?, text]
    rfl
  rw [outcome_list reached, unreadable]

/-- If no two of the kinds have one path, every cluster is listed by a
server. -/
theorem servedBy_server (separate : (paths addedKinds).Nodup)
    (usual : ∀ kind ∈ Listing.usualKinds,
      ∀ controller ∈ objects.usual kind.1, controller.IsUsual) :
    objects.ServedBy (objects.server addedKinds) addedKinds where
  usual := fun kind listed =>
    serves_of_answer separate
      (List.mem_append_left _ (List.mem_map_of_mem listed))
      (written_answer _ fun controller member =>
        written_usual kind.1 (usual kind listed controller member))
  added := by
    intro kind listed
    have answered : (kind.listPath, objects.addedAnswer kind) ∈
        objects.answers addedKinds :=
      List.mem_append_right _
        (List.mem_cons_of_mem _ (List.mem_map_of_mem listed))
    unfold addedAnswer at answered
    cases shown : objects.added kind with
    | some controllers =>
        rw [shown] at answered
        exact .inl ⟨controllers, rfl, serves_of_answer separate answered
          (written_answer controllers fun controller _ =>
            written_added controller)⟩
    | none =>
        rw [shown] at answered
        exact .inr ⟨rfl, _, outcome_list_of_null
          (server_of_answer separate answered)⟩
  pods := serves_of_answer separate
    (List.mem_append_right _ List.mem_cons_self)
    (written_answer _ fun pod _ => written_pod pod)

end ClusterObjects

end UsageForecast
