import UsageForecast.Cluster.Listing
import UsageForecast.Proofs.JsonRecord

/-!
# Objects of the cluster's API and their forms

Controllers and pods as the cluster's API knows them, with the forms that they
take in its answers: a part that is not there is absent or null, and other
members and the order of members do not matter.  Readers turn a form into what
the resolver keeps of its object.
-/

namespace UsageForecast.ApiObject

section

variable {ε δ : Type}

def IsObject (value : Json) : Prop := ∃ members, value = .object members

/-- What a member of an object shows; one that is absent or null shows
nothing. -/
def Shows (form : ε → Json → Prop) (object : Json) (name : String) :
    Option ε → Prop
  | none => object.member? name = none ∨ object.member? name = some .null
  | some part => ∃ value, object.member? name = some value ∧
      value ≠ .null ∧ form part value

/-- What a member shows that has a value for its absence. -/
def ShowsOr (form : ε → Json → Prop) (object : Json) (name : String)
    (absent part : ε) : Prop :=
  ∃ shown, Shows form object name shown ∧ part = shown.getD absent

/-- A reader gives for every form of a part what is kept of the part. -/
def Reads (decode : Json → Option δ) (form : ε → Json → Prop)
    (kept : ε → δ) : Prop :=
  ∀ part value, form part value → decode value = some (kept part)

variable {decode : Json → Option δ} {form : ε → Json → Prop} {kept : ε → δ}
  {object : Json} {name : String}

theorem Reads.member (reads : Reads decode form kept) {shown : Option ε}
    (shows : Shows form object name shown) :
    member name decode object = some (shown.map kept) := by
  unfold ApiObject.member
  cases shown with
  | none =>
      rcases shows with absent | null
      · rw [absent]
        rfl
      · rw [null]
        rfl
  | some part =>
      obtain ⟨value, found, present, formed⟩ := shows
      rw [found]
      cases value with
      | null => exact absurd rfl present
      | _ => simp [reads part _ formed]

/-- The form of a list: the forms of its parts, in their order. -/
def ListForm (form : ε → Json → Prop) (parts : List ε) (value : Json) :
    Prop :=
  ∃ items, value = .array items ∧ List.Forall₂ form parts items

theorem Reads.list (reads : Reads decode form kept) :
    Reads (Json.listOf decode) (ListForm form) (List.map kept) := by
  rintro parts value ⟨items, rfl, formed⟩
  change items.mapM decode = _
  induction formed with
  | nil => rfl
  | cons first rest induction =>
      rw [List.mapM_cons, reads _ _ first, induction]
      rfl

end

def TextForm (text : String) (value : Json) : Prop := value = .string text

theorem reads_text : Reads Json.text? TextForm id := by
  rintro text value rfl
  rfl

/-- The form of labels; of a repeated name the last text counts. -/
def LabelsForm (labels : Labels) (value : Json) : Prop :=
  ∃ members : List (String × String),
    value = .object (members.map fun member =>
      (member.1, .string member.2)) ∧ labels = SortedMap.ofList members

theorem reads_labels : Reads Selector.labelsOfJson? LabelsForm id := by
  rintro labels value ⟨members, rfl, rfl⟩
  rw [Selector.labelsOfJson?, Json.mapOf, Json.mapM_map]
  · rfl
  · exact fun _ _ => rfl

/-- A demand on one label; its operator may be any text. -/
structure Expression where
  key : String
  operator : String
  values : List String

structure LabelSelector where
  matchLabels : Labels
  expressions : List Expression

/-- A controller; only an added kind may come without a selector. -/
structure ControllerObject where
  metadata : Metadata
  selector : Option LabelSelector
  template : PodTemplate

structure PodObject where
  metadata : Metadata
  containers : List String
  phase : Option String

/-- What is kept of a demand: nothing, if its operator is unknown. -/
def Expression.kept? (expression : Expression) :
    Option Selector.Requirement :=
  (Selector.Operator.ofName? expression.operator).map fun operator =>
    ⟨expression.key, operator, expression.values⟩

def LabelSelector.kept (selector : LabelSelector) : Selector :=
  ⟨selector.matchLabels, selector.expressions.filterMap Expression.kept?⟩

/-- What is kept of a controller that has a full name. -/
def ControllerObject.kept? (controller : ControllerObject) :
    Option Listing.Listed :=
  controller.metadata.id?.map fun id =>
    (id, ⟨controller.selector.map LabelSelector.kept, controller.template⟩)

/-- What is kept of a pod that has a full name. -/
def PodObject.kept? (pod : PodObject) : Option Pod :=
  pod.metadata.id?.map fun id =>
    ⟨id, pod.metadata.labels, pod.containers, pod.phase⟩

structure ExpressionForm (expression : Expression) (value : Json) :
    Prop where
  object : IsObject value
  key : ShowsOr TextForm value "key" "" expression.key
  operator : ShowsOr TextForm value "operator" "" expression.operator
  values : ShowsOr (ListForm TextForm) value "values" [] expression.values

structure SelectorForm (selector : LabelSelector) (value : Json) :
    Prop where
  object : IsObject value
  matchLabels :
    ShowsOr LabelsForm value "matchLabels" ∅ selector.matchLabels
  expressions : ShowsOr (ListForm ExpressionForm) value "matchExpressions" []
    selector.expressions

structure MetadataForm (metadata : Metadata) (value : Json) : Prop where
  object : IsObject value
  name : Shows TextForm value "name" metadata.name
  scope : Shows TextForm value "namespace" metadata.scope
  labels : ShowsOr LabelsForm value "labels" ∅ metadata.labels

structure ContainerForm (name : String) (value : Json) : Prop where
  object : IsObject value
  name : ShowsOr TextForm value "name" "" name

/-- The form of the spec of a pod. -/
structure ContainersForm (names : List String) (value : Json) : Prop where
  object : IsObject value
  containers : ShowsOr (ListForm ContainerForm) value "containers" [] names

structure TemplateForm (template : PodTemplate) (value : Json) : Prop where
  object : IsObject value
  metadata : ∃ metadata,
    ShowsOr MetadataForm value "metadata" .empty metadata ∧
      template.labels = metadata.labels
  containers : ShowsOr ContainersForm value "spec" [] template.containers

/-- The form of the spec of a controller of a usual kind; an absent selector
demands nothing. -/
structure SpecForm (spec : LabelSelector × PodTemplate) (value : Json) :
    Prop where
  object : IsObject value
  selector : ShowsOr SelectorForm value "selector" ⟨∅, []⟩ spec.1
  template : ShowsOr TemplateForm value "template" .empty spec.2

structure UsualForm (kind : String) (controller : ControllerObject)
    (value : Json) : Prop where
  object : IsObject value
  version : saysOnly "apiVersion" "apps/v1" value = true
  kind : saysOnly "kind" kind value = true
  metadata :
    ShowsOr MetadataForm value "metadata" .empty controller.metadata
  spec : ∃ spec, Shows SpecForm value "spec" spec ∧
    controller.selector = spec.map Prod.fst ∧
    controller.template = (spec.map Prod.snd).getD .empty

/-- What a part shows of an object of any type; an unreadable part shows
nothing. -/
def ShowsReadable {ε δ : Type} (decode : Json → Option δ)
    (form : ε → Json → Prop) (found : Option Json) : Option ε → Prop
  | none => found >>= decode = none
  | some part => ∃ value, found = some value ∧ form part value

/-- The form of a controller of an added kind. -/
structure AddedForm (controller : ControllerObject) (value : Json) :
    Prop where
  object : IsObject value
  metadata :
    value.member? "metadata" = none ∧ controller.metadata = .empty ∨
      ∃ metadata, value.member? "metadata" = some metadata ∧
        MetadataForm controller.metadata metadata
  selector : ShowsReadable Listing.selector? SelectorForm
    (value.member? "spec" >>= Json.member? "selector") controller.selector
  template : ∃ template, ShowsReadable Listing.template? TemplateForm
      (value.member? "spec" >>= Json.member? "template") template ∧
    controller.template = template.getD .empty

structure StatusForm (phase : Option String) (value : Json) : Prop where
  object : IsObject value
  phase : Shows TextForm value "phase" phase

structure PodForm (pod : PodObject) (value : Json) : Prop where
  object : IsObject value
  version : saysOnly "apiVersion" "v1" value = true
  kind : saysOnly "kind" "Pod" value = true
  metadata : ShowsOr MetadataForm value "metadata" .empty pod.metadata
  containers : ShowsOr ContainersForm value "spec" [] pod.containers
  phase : ∃ status, Shows StatusForm value "status" status ∧
    pod.phase = status.join

theorem reading_object {ε : Type} {value : Json} (object : IsObject value)
    (read : Json → Option ε) : reading read value = read value := by
  obtain ⟨members, rfl⟩ := object
  rfl

theorem reads_expression :
    Reads Listing.requirement? ExpressionForm Expression.kept? := by
  rintro ⟨key, operator, values⟩ value ⟨object, ⟨shownKey, keyShows, rfl⟩,
    ⟨shownOperator, operatorShows, rfl⟩, ⟨shownValues, valuesShow, rfl⟩⟩
  rw [Listing.requirement?, reading_object object,
    reads_text.member keyShows, reads_text.member operatorShows,
    reads_text.list.member valuesShow]
  simp [Expression.kept?]

theorem reads_selector :
    Reads Listing.selector? SelectorForm LabelSelector.kept := by
  rintro ⟨labels, expressions⟩ value ⟨object, ⟨shownLabels, labelsShow, rfl⟩,
    ⟨shownExpressions, expressionsShow, rfl⟩⟩
  rw [Listing.selector?, reading_object object,
    reads_labels.member labelsShow,
    reads_expression.list.member expressionsShow]
  cases shownExpressions <;> simp [LabelSelector.kept, List.filterMap_map]

theorem reads_metadata : Reads Metadata.ofJson? MetadataForm id := by
  rintro ⟨name, scope, labels⟩ value ⟨object, nameShows, scopeShows,
    ⟨shownLabels, labelsShow, rfl⟩⟩
  rw [Metadata.ofJson?, reading_object object, reads_text.member nameShows,
    reads_text.member scopeShows, reads_labels.member labelsShow]
  simp

theorem metadata?_of_showsOr {metadata : Metadata} {value : Json}
    (shows : ShowsOr MetadataForm value "metadata" .empty metadata) :
    metadata? value = some metadata := by
  obtain ⟨shown, shows, rfl⟩ := shows
  rw [metadata?, reads_metadata.member shows]
  simp

theorem reads_container : Reads Listing.containerName? ContainerForm id := by
  rintro name value ⟨object, ⟨shown, shows, rfl⟩⟩
  rw [Listing.containerName?, reading_object object,
    reads_text.member shows]
  simp

theorem reads_containers : Reads Listing.containers? ContainersForm id := by
  rintro names value ⟨object, ⟨shown, shows, rfl⟩⟩
  rw [Listing.containers?, reading_object object,
    reads_container.list.member shows]
  simp

theorem reads_template : Reads Listing.template? TemplateForm id := by
  rintro ⟨labels, containers⟩ value ⟨object, ⟨metadata, shows, same⟩,
    ⟨shown, containersShow, rfl⟩⟩
  obtain rfl : labels = metadata.labels := same
  rw [Listing.template?, reading_object object, metadata?_of_showsOr shows,
    reads_containers.member containersShow]
  simp

theorem reads_spec : Reads Listing.controller? SpecForm fun spec =>
    ⟨some spec.1.kept, spec.2⟩ := by
  rintro ⟨selector, template⟩ value ⟨object,
    ⟨shownSelector, selectorShows, rfl⟩,
    ⟨shownTemplate, templateShows, rfl⟩⟩
  rw [Listing.controller?, reading_object object,
    reads_selector.member selectorShows,
    reads_template.member templateShows]
  cases shownSelector <;> simp [LabelSelector.kept, Selector.any]

theorem reads_usual (kind : String) : Reads (Listing.usual? kind)
    (UsualForm kind) ControllerObject.kept? := by
  rintro ⟨metadata, selector, template⟩ value ⟨object, version, named,
    metadataShows, ⟨spec, specShows, rfl, rfl⟩⟩
  rw [Listing.usual?, reading_object object, version, named,
    metadata?_of_showsOr metadataShows, reads_spec.member specShows]
  cases spec <;> simp [ControllerObject.kept?]

/-- A part that can be read is kept. -/
theorem Reads.readable {ε δ : Type} {decode : Json → Option δ}
    {form : ε → Json → Prop} {kept : ε → δ} (reads : Reads decode form kept)
    {found : Option Json} {shown : Option ε}
    (shows : ShowsReadable decode form found shown) :
    found >>= decode = shown.map kept := by
  cases shown with
  | none => exact shows
  | some part =>
      obtain ⟨value, rfl, formed⟩ := shows
      exact reads part value formed

theorem reads_added :
    Reads Listing.added? AddedForm ControllerObject.kept? := by
  rintro ⟨metadata, selector, template⟩ value ⟨object, metadataShows,
    selectorShows, ⟨shownTemplate, templateShows, rfl⟩⟩
  have named : looseMetadata? value = some metadata := by
    rcases metadataShows with ⟨absent, rfl⟩ | ⟨found, present, formed⟩
    · rw [looseMetadata?, absent]
    · rw [looseMetadata?, present]
      exact reads_metadata metadata found formed
  -- A missing spec is read as null, which has no members.
  have member (name : String) :
      ((value.member? "spec").getD .null).member? name =
        value.member? "spec" >>= Json.member? name := by
    cases value.member? "spec" <;> rfl
  have selected := reads_selector.readable selectorShows
  have declared := reads_template.readable templateShows
  rw [Listing.added?, reading_object object, named]
  simp only [member, selected, declared]
  simp [ControllerObject.kept?]

theorem reads_status :
    Reads Listing.phase? StatusForm id := by
  rintro phase value ⟨object, shows⟩
  rw [Listing.phase?, reading_object object, reads_text.member shows]
  simp

theorem reads_pod : Reads Listing.pod? PodForm PodObject.kept? := by
  rintro ⟨metadata, containers, phase⟩ value ⟨object, version, named,
    metadataShows, ⟨shownContainers, containersShow, rfl⟩,
    ⟨status, statusShows, rfl⟩⟩
  rw [Listing.pod?, reading_object object, version, named,
    metadata?_of_showsOr metadataShows,
    reads_containers.member containersShow, reads_status.member statusShows]
  simp [PodObject.kept?]

end UsageForecast.ApiObject
