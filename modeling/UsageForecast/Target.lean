import UsageForecast.Selector

/-!
# Targets of profiles

A profile observes a workload controller or the pods that a selector takes in
a namespace, and reports one entry for each container or one for each pod.
-/

namespace UsageForecast

/-- A reference to a workload controller. -/
structure Workload where
  kind : String
  name : String
  scope : String
  apiVersion : Option String
deriving DecidableEq, Repr, Inhabited

namespace Workload

abbrev order : Workload → Workload → Ordering :=
  compareLex (compareOn kind) (compareLex (compareOn name)
    (compareLex (compareOn scope) (compareOn apiVersion)))

instance : Ord Workload := ⟨order⟩

instance : Std.TransOrd Workload := inferInstanceAs (Std.TransCmp order)

instance : Std.LawfulEqOrd Workload where
  eq_of_compare {left right} same := by
    obtain ⟨kinds, rest⟩ := key_eq_and_then same
    obtain ⟨names, rest⟩ := key_eq_and_then rest
    obtain ⟨scopes, rest⟩ := key_eq_and_then rest
    have versions := key_eq rest
    cases left
    cases right
    simp_all

def display (workload : Workload) : String :=
  s!"{workload.kind}/{workload.scope}/{workload.name}"

/-- The members of a workload reference; an absent version is left out. -/
def members (workload : Workload) : List (String × Json) :=
  [("kind", .string workload.kind), ("name", .string workload.name),
    ("namespace", .string workload.scope)]
    ++ match workload.apiVersion with
      | none => []
      | some version => [("apiVersion", .string version)]

def fields : Json.FieldReader Workload := do
  let kind ← Json.required "kind" Json.text?
  let name ← Json.required "name" Json.text?
  let scope ← Json.required "namespace" Json.text?
  let apiVersion ← Json.optional "apiVersion" Json.text?
  return ⟨kind, name, scope, apiVersion⟩

def toJson (workload : Workload) : Json := .object workload.members

def ofJson? : Json → Option Workload := Json.record fields

instance : Codec Workload := ⟨toJson, ofJson?⟩

end Workload

/-- What a profile observes. -/
inductive Target where
  | workload (reference : Workload)
  | pods (scope : String) (selector : Selector)
deriving DecidableEq, Inhabited

namespace Target

def rank : Target → Nat
  | .workload _ => 0
  | .pods .. => 1

def workload? : Target → Option Workload
  | .workload reference => some reference
  | .pods .. => none

def scope? : Target → Option String
  | .workload _ => none
  | .pods scope _ => some scope

def selector? : Target → Option Selector
  | .workload _ => none
  | .pods _ selector => some selector

/-- Workloads come before selectors; each kind is ordered field by field. -/
abbrev order : Target → Target → Ordering :=
  compareLex (compareOn rank) (compareLex (compareOn workload?)
    (compareLex (compareOn scope?) (compareOn selector?)))

instance : Ord Target := ⟨order⟩

instance : Std.TransOrd Target := inferInstanceAs (Std.TransCmp order)

instance : Std.LawfulEqOrd Target where
  eq_of_compare {left right} same := by
    obtain ⟨ranks, rest⟩ := key_eq_and_then same
    obtain ⟨workloads, rest⟩ := key_eq_and_then rest
    obtain ⟨scopes, rest⟩ := key_eq_and_then rest
    have selectors := key_eq rest
    cases left <;> cases right <;>
      simp_all [rank, workload?, scope?, selector?]

def scope : Target → String
  | .workload reference => reference.scope
  | .pods scope _ => scope

def display : Target → String
  | .workload reference => reference.display
  | .pods scope selector => s!"selector/{scope}/{selector.display}"

def toJson : Target → Json
  | .workload reference =>
      .object (("type", .string "workload") :: reference.members)
  | .pods scope selector =>
      .object [("type", .string "podSelector"), ("namespace", .string scope),
        ("selector", selector.toJson)]

def fields? : String → Option (Json.FieldReader Target)
  | "workload" => some (.workload <$> Workload.fields)
  | "podSelector" => some do
      let scope ← Json.required "namespace" Json.text?
      let selector ← Json.required "selector" Selector.ofJson?
      return .pods scope selector
  | _ => none

def ofJson? : Json → Option Target := Json.tagged "type" fields?

instance : Codec Target := ⟨toJson, ofJson?⟩

end Target

/-- What the entries of a profile stand for: pods as a whole, or containers
by name. -/
inductive Level where
  | pod
  | container
deriving DecidableEq, Repr, Inhabited

namespace Level

def rank : Level → Nat
  | .pod => 0
  | .container => 1

instance : Ord Level := ⟨compareOn rank⟩

instance : Std.TransOrd Level :=
  inferInstanceAs (Std.TransCmp (compareOn rank))

instance : Std.LawfulEqOrd Level :=
  lawfulEqCmp_of_key fun left right ranks => by
    cases left <;> cases right <;> simp_all [rank]

def name : Level → String
  | .pod => "Pod"
  | .container => "Container"

def ofName? : String → Option Level
  | "Pod" => some .pod
  | "Container" => some .container
  | _ => none

def toJson (level : Level) : Json := .string level.name

def ofJson? : Json → Option Level := Json.variant ofName?

instance : Codec Level := ⟨toJson, ofJson?⟩

end Level

end UsageForecast
