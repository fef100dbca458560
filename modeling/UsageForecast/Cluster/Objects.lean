import UsageForecast.Cluster.ApiKind
import UsageForecast.Http.Exchange
import UsageForecast.Json.Reader
import UsageForecast.Selector
import UsageForecast.Usage.BackendFault

/-!
# Objects of the cluster's API

How lists of objects are read from the cluster's API.  An absent or null
member has its default; a member of a wrong type makes its object unreadable,
and with it the list.
-/

namespace UsageForecast

namespace ApiObject

/-- Read a member that may be absent or null. -/
def member {ε : Type} (name : String) (decode : Json → Option ε)
    (object : Json) : Option (Option ε) :=
  match object.member? name with
  | none => some none
  | some .null => some none
  | some value => (decode value).map some

/-- Read a value that has to be an object. -/
def reading {ε : Type} (read : Json → Option ε) : Json → Option ε
  | .object members => read (.object members)
  | _ => none

/-- What the engine uses of the metadata of an object. -/
structure Metadata where
  name : Option String
  scope : Option String
  labels : Labels
deriving Inhabited

namespace Metadata

def empty : Metadata := ⟨none, none, ∅⟩

def ofJson? : Json → Option Metadata :=
  reading fun value => do
    let name ← member "name" Json.text? value
    let scope ← member "namespace" Json.text? value
    let labels ← member "labels" Selector.labelsOfJson? value
    return ⟨name, scope, labels.getD ∅⟩

/-- The qualified name of an object that has one. -/
def id? (metadata : Metadata) : Option QualifiedName := do
  return ⟨← metadata.scope, ← metadata.name⟩

end Metadata

/-- Read the metadata of an object of a fixed type. -/
def metadata? (value : Json) : Option Metadata := do
  return (← member "metadata" Metadata.ofJson? value).getD .empty

/-- Read the metadata of an object of any type, which may be absent but not
null. -/
def looseMetadata? (value : Json) : Option Metadata :=
  match value.member? "metadata" with
  | none => some .empty
  | some metadata => Metadata.ofJson? metadata

/-- Whether a text member has a given value, where it is there. -/
def saysOnly (name expected : String) (value : Json) : Bool :=
  match value.member? name with
  | none => true
  | some found => found.text? == some expected

def items? {ε : Type} (decode : Json → Option ε) : Json → Option (List ε) :=
  reading fun value => do
    let _ ← match value.member? "metadata" with
      | none => some ()
      | some (.object _) => some ()
      | some _ => none
    match ← value.member? "items" with
    | .null => return []
    | items => Json.listOf decode items

/-- Read a body that reports no error. -/
def body? {ε : Type} (decode : Json → Option ε)
    (response : Http.Response) : Option ε :=
  if Http.Status.isError response.status then none
  else Json.ofText? response.body >>= decode

def list {ε : Type} (server : Http.Server) (path subject : String)
    (decode : Json → Option ε) : Http.Exchange BackendFault (List ε) := do
  let response ← Http.Exchange.ask server (.read path)
  match response >>= body? (items? decode) with
  | some items => return items
  | none => Http.Exchange.ofExcept (.error (.listing subject))

end ApiObject

end UsageForecast
