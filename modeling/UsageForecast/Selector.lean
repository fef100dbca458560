import UsageForecast.KeyOrder
import UsageForecast.SortedMap
import UsageForecast.Json.Codec

/-!
# Label selectors

A selector asks for labels with given values and for requirements on single
labels.  An absent label passes the two negative operators and fails the two
positive ones; a selector without any demand takes every pod.
-/

namespace UsageForecast

abbrev Labels := SortedMap String String

inductive Selector.Operator where
  | among
  | notAmong
  | present
  | absent
deriving DecidableEq, Repr, Inhabited

namespace Selector.Operator

def rank : Operator → Nat
  | .among => 0
  | .notAmong => 1
  | .present => 2
  | .absent => 3

instance : Ord Operator := ⟨compareOn rank⟩

instance : Std.TransOrd Operator :=
  inferInstanceAs (Std.TransCmp (compareOn rank))

instance : Std.LawfulEqOrd Operator :=
  lawfulEqCmp_of_key fun left right ranks => by
    cases left <;> cases right <;> simp_all [rank]

def name : Operator → String
  | .among => "In"
  | .notAmong => "NotIn"
  | .present => "Exists"
  | .absent => "DoesNotExist"

def ofName? : String → Option Operator
  | "In" => some .among
  | "NotIn" => some .notAmong
  | "Exists" => some .present
  | "DoesNotExist" => some .absent
  | _ => none

end Selector.Operator

/-- A demand on one label. -/
structure Selector.Requirement where
  key : String
  operator : Selector.Operator
  values : List String
deriving DecidableEq, Repr, Inhabited

namespace Selector.Requirement

abbrev order : Requirement → Requirement → Ordering :=
  compareLex (compareOn key) (compareLex (compareOn operator)
    (compareOn values))

instance : Ord Requirement := ⟨order⟩

instance : Std.TransOrd Requirement := inferInstanceAs (Std.TransCmp order)

instance : Std.LawfulEqOrd Requirement where
  eq_of_compare {left right} same := by
    obtain ⟨keys, rest⟩ := key_eq_and_then same
    obtain ⟨operators, rest⟩ := key_eq_and_then rest
    have values := key_eq rest
    cases left
    cases right
    simp_all

def accepts (requirement : Requirement) (labels : Labels) : Bool :=
  match requirement.operator, labels.find? requirement.key with
  | .among, some value => requirement.values.contains value
  | .among, none => false
  | .notAmong, some value => !requirement.values.contains value
  | .notAmong, none => true
  | .present, value => value.isSome
  | .absent, value => value.isNone

def display (requirement : Requirement) : String :=
  let key := requirement.key
  let values := String.intercalate "," requirement.values
  match requirement.operator with
  | .among => s!"{key} in ({values})"
  | .notAmong => s!"{key} notin ({values})"
  | .present => key
  | .absent => s!"!{key}"

def toJson (requirement : Requirement) : Json :=
  .object [
    ("key", .string requirement.key),
    ("operator", .string requirement.operator.name),
    ("values", Json.ofStrings requirement.values)]

def ofJson? : Json → Option Requirement :=
  Json.record do
    let key ← Json.required "key" Json.text?
    let operator ← Json.required "operator" (Json.variant Operator.ofName?)
    let values ← Json.defaulted "values" [] (Json.listOf Json.text?)
    return ⟨key, operator, values⟩

instance : Codec Requirement := ⟨toJson, ofJson?⟩

end Selector.Requirement

/-- A label selector. -/
structure Selector where
  matchLabels : Labels
  requirements : List Selector.Requirement
deriving DecidableEq, Inhabited

namespace Selector

abbrev order : Selector → Selector → Ordering :=
  compareLex (compareOn matchLabels) (compareOn requirements)

instance : Ord Selector := ⟨order⟩

instance : Std.TransOrd Selector := inferInstanceAs (Std.TransCmp order)

instance : Std.LawfulEqOrd Selector where
  eq_of_compare {left right} same := by
    obtain ⟨labels, rest⟩ := key_eq_and_then same
    have requirements := key_eq rest
    cases left
    cases right
    simp_all

/-- The selector without any demand. -/
def any : Selector := ⟨∅, []⟩

def isEmpty (selector : Selector) : Bool :=
  selector.matchLabels.isEmpty && selector.requirements.isEmpty

def accepts (selector : Selector) (labels : Labels) : Bool :=
  (selector.matchLabels.entries.all fun (key, value) =>
      labels.find? key == some value)
    && selector.requirements.all fun requirement => requirement.accepts labels

def display (selector : Selector) : String :=
  String.intercalate ","
    ((selector.matchLabels.entries.map fun (key, value) => s!"{key}={value}")
      ++ selector.requirements.map Requirement.display)

def labelsOfJson? : Json → Option Labels := Json.mapOf some Json.text?

def labelsToJson (labels : Labels) : Json := Json.ofMap id .string labels

def toJson (selector : Selector) : Json :=
  .object [
    ("matchLabels", labelsToJson selector.matchLabels),
    ("matchExpressions", .array (selector.requirements.map
      Requirement.toJson))]

def ofJson? : Json → Option Selector :=
  Json.record do
    let labels ← Json.defaulted "matchLabels" ∅ labelsOfJson?
    let requirements ←
      Json.defaulted "matchExpressions" [] (Json.listOf Requirement.ofJson?)
    return ⟨labels, requirements⟩

instance : Codec Selector := ⟨toJson, ofJson?⟩

end Selector

end UsageForecast
