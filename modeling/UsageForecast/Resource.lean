import UsageForecast.KeyOrder
import UsageForecast.SortedMap
import UsageForecast.Json.Codec

/-!
# Resources and the names of objects

The resources whose usage is profiled, in their fixed order, and the
namespaced names of pods and owners.
-/

namespace UsageForecast

/-- A resource that the engine can profile. -/
inductive Resource where
  | cpu
  | memory
  | storageRead
  | storageWrite
  | memoryBandwidth
  | diskRead
  | diskWrite
deriving DecidableEq, Repr, Inhabited

namespace Resource

def all : List Resource :=
  [.cpu, .memory, .storageRead, .storageWrite, .memoryBandwidth, .diskRead,
    .diskWrite]

def rank : Resource → Nat
  | .cpu => 0
  | .memory => 1
  | .storageRead => 2
  | .storageWrite => 3
  | .memoryBandwidth => 4
  | .diskRead => 5
  | .diskWrite => 6

instance : Ord Resource := ⟨compareOn rank⟩

instance : Std.TransOrd Resource :=
  inferInstanceAs (Std.TransCmp (compareOn rank))

instance : Std.LawfulEqOrd Resource :=
  lawfulEqCmp_of_key fun left right ranks => by
    cases left <;> cases right <;> simp_all [rank]

def name : Resource → String
  | .cpu => "cpu"
  | .memory => "memory"
  | .storageRead => "fsread"
  | .storageWrite => "fswrite"
  | .memoryBandwidth => "memory_bandwidth"
  | .diskRead => "disk_read"
  | .diskWrite => "disk_write"

def ofName? (name : String) : Option Resource :=
  all.find? fun resource => resource.name == name

def toJson (resource : Resource) : Json := .string resource.name

def ofJson? : Json → Option Resource := Json.variant ofName?

instance : Codec Resource := ⟨toJson, ofJson?⟩

end Resource

/-- A name within a namespace. -/
structure QualifiedName where
  scope : String
  name : String
deriving DecidableEq, Repr, Inhabited

namespace QualifiedName

abbrev order : QualifiedName → QualifiedName → Ordering :=
  compareLex (compareOn scope) (compareOn name)

instance : Ord QualifiedName := ⟨order⟩

instance : Std.TransOrd QualifiedName :=
  inferInstanceAs (Std.TransCmp order)

instance : Std.LawfulEqOrd QualifiedName where
  eq_of_compare {left right} same := by
    obtain ⟨scopes, rest⟩ := key_eq_and_then same
    have names := key_eq rest
    cases left
    cases right
    simp_all

def display (name : QualifiedName) : String := s!"{name.scope}/{name.name}"

def toJson (name : QualifiedName) : Json :=
  .object [("namespace", .string name.scope), ("name", .string name.name)]

def reader (text? : Json → Option String) : Json → Option QualifiedName :=
  Json.record do
    let scope ← Json.required "namespace" text?
    let name ← Json.required "name" text?
    return ⟨scope, name⟩

def ofJson? : Json → Option QualifiedName := reader Json.text?

instance : Codec QualifiedName := ⟨toJson, ofJson?⟩

end QualifiedName

/-- A pod is named within its namespace. -/
abbrev PodName := QualifiedName

/-- The object whose status receives the published results of a profile. -/
abbrev Owner := QualifiedName

end UsageForecast
