import UsageForecast.Failure
import UsageForecast.Resource

/-!
# Sources of usage

Usage is read from the cluster metrics API or from named query back ends.  A
selection pairs a source with the resources read from it; the loose form that
users write is checked and turned into selections.
-/

namespace UsageForecast

/-- The identity of a usage back end. -/
inductive Source where
  | metricsApi
  | prometheus (name : String)
deriving DecidableEq, Repr, Inhabited

namespace Source

def rank : Source → Nat
  | .metricsApi => 0
  | .prometheus _ => 1

def name? : Source → Option String
  | .metricsApi => none
  | .prometheus name => some name

/-- The metrics API comes before named back ends. -/
abbrev order : Source → Source → Ordering :=
  compareLex (compareOn rank) (compareOn name?)

instance : Ord Source := ⟨order⟩

instance : Std.TransOrd Source := inferInstanceAs (Std.TransCmp order)

instance : Std.LawfulEqOrd Source where
  eq_of_compare {left right} same := by
    obtain ⟨ranks, rest⟩ := key_eq_and_then same
    have names := key_eq rest
    cases left <;> cases right <;> simp_all [rank, name?]

def display : Source → String
  | .metricsApi => "metrics-api"
  | .prometheus name => s!"prometheus/{name}"

def members : Source → List (String × Json)
  | .metricsApi => [("source", .string "metricsApi")]
  | .prometheus name =>
      [("source", .string "prometheus"), ("name", .string name)]

def toJson (source : Source) : Json := .object source.members

def fields? : String → Option (Json.FieldReader Source)
  | "metricsApi" => some (pure .metricsApi)
  | "prometheus" => some (.prometheus <$> Json.required "name" Json.text?)
  | _ => none

def ofJson? : Json → Option Source := Json.tagged "source" fields?

instance : Codec Source := ⟨toJson, ofJson?⟩

end Source

/-- A source with the resources that are read from it. -/
structure Selection where
  source : Source
  resources : List Resource
deriving DecidableEq, Repr, Inhabited

namespace Selection

def resourcesToJson (resources : List Resource) : Json :=
  .array (resources.map Resource.toJson)

def resourcesOfJson? : Json → Option (List Resource) :=
  Json.listOf Resource.ofJson?

def toJson (selection : Selection) : Json :=
  .object (selection.source.members
    ++ [("resources", resourcesToJson selection.resources)])

def fields? (kind : String) : Option (Json.FieldReader Selection) := do
  let identity ← Source.fields? kind
  return do
    let source ← identity
    let resources ← Json.required "resources" resourcesOfJson?
    return ⟨source, resources⟩

def ofJson? : Json → Option Selection := Json.tagged "source" fields?

instance : Codec Selection := ⟨toJson, ofJson?⟩

end Selection

/-- A named back end with the resources that are read from it. -/
structure Backend where
  name : String
  resources : List Resource
deriving DecidableEq, Repr, Inhabited

namespace Backend

def selection (backend : Backend) : Selection :=
  ⟨.prometheus backend.name, backend.resources⟩

/-- Write a back end as a record whose name has a given member name. -/
def toJson (nameMember : String) (backend : Backend) : Json :=
  .object [(nameMember, .string backend.name),
    ("resources", Selection.resourcesToJson backend.resources)]

def ofJson? (nameMember : String) : Json → Option Backend :=
  Json.record do
    let name ← Json.required nameMember Json.text?
    let resources ← Json.required "resources" Selection.resourcesOfJson?
    return ⟨name, resources⟩

end Backend

inductive LooseSelection.Kind where
  | metricsApi
  | prometheus
deriving DecidableEq, Repr, Inhabited

namespace LooseSelection.Kind

def name : Kind → String
  | .metricsApi => "MetricsApi"
  | .prometheus => "Prometheus"

def ofName? : String → Option Kind
  | "MetricsApi" => some .metricsApi
  | "Prometheus" => some .prometheus
  | _ => none

end LooseSelection.Kind

/-- The loose form of a selection: a kind and a payload for each kind, of
which exactly the one for the kind should be there. -/
structure LooseSelection where
  kind : LooseSelection.Kind
  metricServer : Option (List Resource)
  prometheus : Option (List Backend)
deriving DecidableEq, Repr, Inhabited

namespace LooseSelection

def selections (loose : LooseSelection) :
    Except SpecFault (List Selection) :=
  match loose.kind, loose.metricServer, loose.prometheus with
  | .metricsApi, some resources, none => .ok [⟨.metricsApi, resources⟩]
  | .prometheus, none, some backends =>
      if backends.isEmpty then .error .noBackends
      else .ok (backends.map Backend.selection)
  | .metricsApi, none, _ => .error .noMetricServer
  | .prometheus, _, none => .error .noPrometheus
  | kind, _, _ => .error (.foreignPayload kind.name)

def toJson (loose : LooseSelection) : Json :=
  .object [
    ("source", .string loose.kind.name),
    ("metricServer", Json.ofOption (fun resources =>
      .object [("resources", Selection.resourcesToJson resources)])
      loose.metricServer),
    ("prometheus", Json.ofOption (fun backends =>
      .array (backends.map (Backend.toJson "source"))) loose.prometheus)]

def ofJson? : Json → Option LooseSelection :=
  Json.record do
    let kind ← Json.required "source" (Json.variant Kind.ofName?)
    let metricServer ← Json.optional "metricServer"
      (Json.record (Json.required "resources" Selection.resourcesOfJson?))
    let prometheus ← Json.optional "prometheus"
      (Json.listOf (Backend.ofJson? "source"))
    return ⟨kind, metricServer, prometheus⟩

instance : Codec LooseSelection := ⟨toJson, ofJson?⟩

end LooseSelection

end UsageForecast
