import UsageForecast.Source
import UsageForecast.Estimator.Quantile

/-!
# Profile specs

A spec says which resources of which sources a profile estimates and with
which estimators.  A spec is valid if it has sources and estimators, each
source serves what is asked of it and is asked once, and every parameter of
every estimator makes sense.
-/

namespace UsageForecast

/-- The parameters of a distribution estimator. -/
structure DistributionModel (α : Type) where
  quantiles : List String
  halfLife : Option α

namespace DistributionModel

variable {α : Type} [Scalar α]

def standard : DistributionModel α := ⟨[], none⟩

/-- The quantiles that a model asks for. -/
def parsedQuantiles (model : DistributionModel α) :
    Except SpecFault (List (Quantile α)) :=
  Quantile.parseAll model.quantiles

def members (model : DistributionModel α) : List (String × Json) :=
  [("quantiles", Json.ofStrings model.quantiles),
    ("decayHalfLifeCycles", Json.ofOption Json.ofScalar model.halfLife)]

def fields : Json.FieldReader (DistributionModel α) := do
  let quantiles ← Json.defaulted "quantiles" [] (Json.listOf Json.text?)
  let halfLife ← Json.optional "decayHalfLifeCycles" Json.scalar?
  return ⟨quantiles, halfLife⟩

def toJson (model : DistributionModel α) : Json := .object model.members

def ofJson? : Json → Option (DistributionModel α) := Json.record fields

instance : Codec (DistributionModel α) := ⟨toJson, ofJson?⟩

end DistributionModel

inductive EstimatorKind where
  | distribution
deriving DecidableEq, Repr, Inhabited

namespace EstimatorKind

def rank : EstimatorKind → Nat
  | .distribution => 0

instance : Ord EstimatorKind := ⟨compareOn rank⟩

instance : Std.TransOrd EstimatorKind :=
  inferInstanceAs (Std.TransCmp (compareOn rank))

instance : Std.LawfulEqOrd EstimatorKind :=
  lawfulEqCmp_of_key fun left right _ => by
    cases left
    cases right
    rfl

def name : EstimatorKind → String
  | .distribution => "Distribution"

def ofName? : String → Option EstimatorKind
  | "Distribution" => some .distribution
  | _ => none

def toJson (kind : EstimatorKind) : Json := .string kind.name

def ofJson? : Json → Option EstimatorKind := Json.variant ofName?

instance : Codec EstimatorKind := ⟨toJson, ofJson?⟩

end EstimatorKind

inductive EstimatorRequest (α : Type) where
  | distribution (model : DistributionModel α)

namespace EstimatorRequest

variable {α : Type}

def kind : EstimatorRequest α → EstimatorKind
  | .distribution _ => .distribution

def model? : EstimatorRequest α → Option (DistributionModel α)
  | .distribution model => some model

variable [Scalar α]

def toJson : EstimatorRequest α → Json
  | .distribution model =>
      .object (("type", .string "distribution") :: model.members)

def fields? : String → Option (Json.FieldReader (EstimatorRequest α))
  | "distribution" => some (.distribution <$> DistributionModel.fields)
  | _ => none

def ofJson? : Json → Option (EstimatorRequest α) :=
  Json.tagged "type" fields?

instance : Codec (EstimatorRequest α) := ⟨toJson, ofJson?⟩

end EstimatorRequest

/-- What a profile estimates. -/
structure Spec (α : Type) where
  owner : Option Owner
  selections : List Selection
  estimators : List (EstimatorRequest α)

namespace Spec

variable {α : Type}

/-- The distinct sources of a spec, in order. -/
def sources (spec : Spec α) : List Source :=
  sortDistinct (spec.selections.map Selection.source)

def kinds (spec : Spec α) : List EstimatorKind :=
  sortDistinct (spec.estimators.map EstimatorRequest.kind)

/-- The distinct resources of all sources of a spec, in order. -/
def resources (spec : Spec α) : List Resource :=
  sortDistinct (spec.selections.flatMap Selection.resources)

/-- The model of the first distribution estimator. -/
def distribution? (spec : Spec α) : Option (DistributionModel α) :=
  spec.estimators.findSome? EstimatorRequest.model?

section

variable [Scalar α]

/-- The spec for a workload that names none: processor time and memory from
the metrics API, and everything that the given back ends serve. -/
def forWorkload (owner : Option Owner) (backends : List Backend) : Spec α :=
  { owner
    selections :=
      ⟨.metricsApi, [.cpu, .memory]⟩ :: backends.map Backend.selection
    estimators := [.distribution DistributionModel.standard] }

/-- The spec for a selector that names none. -/
def forSelector (owner : Option Owner) : Spec α := forWorkload owner []

/-- Check the selections one by one, after those of some sources. -/
def checkSelections (seen : List Source) :
    List Selection → Except SpecFault Unit
  | [] => .ok ()
  | selection :: rest =>
      let source := selection.source
      let unserved? := selection.resources.find? fun resource =>
        source == .metricsApi && resource != .cpu && resource != .memory
      if selection.resources.isEmpty then
        .error (.noResources source.display)
      else
        match unserved? with
        | some resource => .error (.unservedResource resource.name)
        | none =>
            if seen.contains source then
              .error (.repeatedSource source.display)
            else
              checkSelections (source :: seen) rest

def checkEstimator : EstimatorRequest α → Except SpecFault Unit
  | .distribution model => do
      let _ ← model.parsedQuantiles
      match model.halfLife with
      | none => .ok ()
      | some halfLife =>
          if Scalar.isFinite halfLife && decide (0 < halfLife) then .ok ()
          else .error (.halfLife (Scalar.display halfLife))

/-- Check a spec; the first fault counts. -/
def validate (spec : Spec α) : Except SpecFault Unit := do
  if spec.selections.isEmpty then
    throw .noSources
  if spec.estimators.isEmpty then
    throw .noEstimators
  checkSelections [] spec.selections
  spec.estimators.forM checkEstimator

def toJson (spec : Spec α) : Json :=
  .object [
    ("owner", Json.ofOption QualifiedName.toJson spec.owner),
    ("metrics", .array (spec.selections.map Selection.toJson)),
    ("estimators", .array (spec.estimators.map EstimatorRequest.toJson))]

/-- Read a spec from a record whose owner is a record of texts. -/
def reader (text? : Json → Option String) : Json → Option (Spec α) :=
  Json.record do
    let owner ← Json.optional "owner" (QualifiedName.reader text?)
    let selections ← Json.required "metrics" (Json.listOf Selection.ofJson?)
    let estimators ←
      Json.required "estimators" (Json.listOf EstimatorRequest.ofJson?)
    return ⟨owner, selections, estimators⟩

def ofJson? : Json → Option (Spec α) := reader Json.text?

instance : Codec (Spec α) := ⟨toJson, ofJson?⟩

end

end Spec

end UsageForecast
