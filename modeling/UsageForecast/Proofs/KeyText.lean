import UsageForecast.Proofs.JsonRecord
import UsageForecast.Profile.Key

/-!
# Keys, read back

Every part of a key is read back from structured data as it was written, so
different keys have different texts.
-/

namespace UsageForecast

open Json

theorem Resource.ofName?_name (resource : Resource) :
    ofName? resource.name = some resource := by
  cases resource <;> rfl

theorem Level.faithful (level : Level) :
    Faithful Level.toJson Level.ofJson? level :=
  faithful_variant (fun level => by cases level <;> rfl) level

theorem EstimatorKind.faithful (kind : EstimatorKind) :
    Faithful EstimatorKind.toJson EstimatorKind.ofJson? kind :=
  faithful_variant (fun kind => by cases kind; rfl) kind

namespace Selector

theorem Operator.variant_name (operator : Operator) :
    variant ofName? (.string operator.name) = some operator := by
  cases operator <;> rfl

theorem Requirement.faithful (requirement : Requirement) :
    Faithful toJson ofJson? requirement where
  canonical :=
    ⟨trivial, trivial, (faithful_texts requirement.values).canonical, trivial⟩
  decoded := by
    have values := (faithful_texts requirement.values).decoded
    refine record_object ?_
    simp [required_head, defaulted_head, text?, Operator.variant_name, values]

theorem faithful_labels (labels : Labels) :
    Faithful labelsToJson labelsOfJson? labels :=
  Faithful.map (fun _ => rfl) fun text _ => faithful_text text

theorem faithful (selector : Selector) :
    Faithful toJson ofJson? selector where
  canonical := by
    have requirements := Faithful.list selector.requirements
      fun requirement _ => requirement.faithful
    exact ⟨(faithful_labels selector.matchLabels).canonical,
      requirements.canonical, trivial⟩
  decoded := by
    have labels := (faithful_labels selector.matchLabels).decoded
    have requirements := (Faithful.list selector.requirements
      fun requirement _ => requirement.faithful).decoded
    refine record_object ?_
    simp [defaulted_head, labels, requirements]

theorem Requirement.depth_le (requirement : Requirement) :
    requirement.toJson.depth ≤ 2 := by
  have values : depthOfItems (requirement.values.map .string) ≤ 0 :=
    depthOfItems_le fun item listed => by
      obtain ⟨text, _, rfl⟩ := List.mem_map.1 listed
      exact Nat.le_refl 0
  simp only [toJson, ofStrings, depth, depthOfMembers]
  omega

theorem depth_labels_le (labels : Labels) :
    (labelsToJson labels).depth ≤ 1 :=
  Nat.succ_le_succ <| depthOfMembers_le fun member listed => by
    obtain ⟨entry, _, rfl⟩ := List.mem_map.1 listed
    exact Nat.le_refl 0

theorem depth_le (selector : Selector) : selector.toJson.depth ≤ 4 := by
  have labels := depth_labels_le selector.matchLabels
  have requirements : depthOfItems
      (selector.requirements.map Requirement.toJson) ≤ 2 :=
    depthOfItems_le fun item listed => by
      obtain ⟨requirement, _, rfl⟩ := List.mem_map.1 listed
      exact requirement.depth_le
  simp only [toJson, depth, depthOfMembers]
  omega

end Selector

theorem Workload.fields_members (workload : Workload) :
    fields (.named workload.members) = some (workload, .named []) := by
  obtain ⟨kind, name, scope, apiVersion⟩ := workload
  cases apiVersion <;>
    simp [fields, members, required_head, optional_head, optional_absent,
      nullable, text?]

namespace Target

theorem depth_le (target : Target) : target.toJson.depth ≤ depthLimit := by
  cases target with
  | workload reference =>
      obtain ⟨kind, name, scope, apiVersion⟩ := reference
      cases apiVersion <;> simp [toJson, Workload.members, depth,
        depthOfMembers, depthLimit]
  | pods scope selector =>
      have selected := selector.depth_le
      simp only [toJson, depth, depthOfMembers, depthLimit]
      omega

theorem canonical (target : Target) : target.toJson.Canonical := by
  cases target with
  | workload reference =>
      obtain ⟨kind, name, scope, apiVersion⟩ := reference
      cases apiVersion <;>
        simp [toJson, Workload.members, Canonical, CanonicalMembers]
  | pods scope selector =>
      exact ⟨trivial, trivial, selector.faithful.canonical, trivial⟩

theorem ofJson?_toJson (target : Target) :
    ofJson? target.toJson = some target := by
  have shallow := target.depth_le
  cases target with
  | workload reference =>
      refine tagged_object shallow ?_ rfl ?_
      · obtain ⟨kind, name, scope, apiVersion⟩ := reference
        cases apiVersion <;> simp [Workload.members]
      · simp [Workload.fields_members]
  | pods scope selector =>
      refine tagged_object shallow (by simp) rfl ?_
      simp [required_head, text?, selector.faithful.decoded]

end Target

theorem Source.faithful (source : Source) :
    Faithful toJson ofJson? source := by
  cases source with
  | metricsApi => exact ⟨⟨trivial, trivial⟩, rfl⟩
  | prometheus name =>
      refine ⟨⟨trivial, trivial, trivial⟩,
        tagged_object ?_ (by simp) rfl ?_⟩
      · simp [depth, depthOfMembers, depthLimit]
      · simp [required_head, text?]

namespace ProfileKey

theorem faithful (key : ProfileKey) : Faithful toJson ofJson? key := by
  have sources := Faithful.list key.sources
    fun source _ => source.faithful
  have estimators := Faithful.list key.estimators
    fun kind _ => kind.faithful
  refine ⟨⟨key.target.canonical, sources.canonical, estimators.canonical,
    key.level.faithful.canonical, trivial⟩, record_object ?_⟩
  simp [required_head, key.target.ofJson?_toJson, sources.decoded,
    estimators.decoded, key.level.faithful.decoded]

/-- Different keys have different texts. -/
theorem render_injective {left right : ProfileKey}
    (same : left.toJson.render = right.toJson.render) : left = right := by
  have equal := Json.render_injective left.faithful.canonical
    right.faithful.canonical same
  have read := left.faithful.decoded
  rw [equal, right.faithful.decoded] at read
  exact (Option.some.inj read).symm

end ProfileKey

end UsageForecast
