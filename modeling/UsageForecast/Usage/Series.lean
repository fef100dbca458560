import UsageForecast.Decimal.Literal
import UsageForecast.Usage.Snapshot

/-!
# Series of query results

The answer to a query is a list of series, each with labels and one value.
The series that name a namespace, a pod and a container are merged into a
snapshot; a pod is as recent as its latest series.
-/

namespace UsageForecast

/-- A labelled value at a time. -/
structure Series (α : Type) where
  labels : SortedMap String String
  seconds : α
  value : String

namespace Series

variable {α : Type} [Scalar α]

/-- The fields of the value of a series: exactly a time and a text. -/
def value? : Json → Option (α × String)
  | .array [seconds, value] => do
      return (← Json.scalar? seconds, ← value.text?)
  | _ => none

def ofJson? : Json → Option (Series α) :=
  Json.record do
    let labels ← Json.defaulted "metric" ∅ (Json.mapOf some Json.text?)
    let (seconds, value) ← Json.required "value" value?
    return ⟨labels, seconds, value⟩

def container? (series : Series α) : Option (PodName × String) := do
  let scope ← series.labels.find? "namespace"
  let pod ← series.labels.find? "pod"
  let container ← series.labels.find? "container"
  return (⟨scope, pod⟩, container)

/-- The time of a series in whole milliseconds; the present where the
calendar ends. -/
def timestamp (now : Instant) (series : Series α) : Instant :=
  (Instant.ofMilliseconds?
    (Scalar.truncate (series.seconds * Scalar.scientific 1000 0))).getD now

/-- What a series measured: a number, or a text that is kept as it is. -/
def measurement (series : Series α) : Measurement α :=
  match Numeral.parse? series.value.toList >>= Scalar.ofNumeral? with
  | some amount => .value amount
  | none => .text series.value

def mergeInto (now : Instant) (resource : Resource)
    (snapshot : UsageSnapshot α) (series : Series α) : UsageSnapshot α :=
  match series.container? with
  | none => snapshot
  | some (pod, container) =>
      let time := series.timestamp now
      snapshot.alter pod fun known =>
        let usage := known.getD (.empty time)
        { usage with timestamp := usage.timestamp.latest time }.insert
          container resource series.measurement

def mergeAll (now : Instant) (resource : Resource)
    (snapshot : UsageSnapshot α) (list : List (Series α)) :
    UsageSnapshot α :=
  list.foldl (mergeInto now resource) snapshot

end Series

end UsageForecast
