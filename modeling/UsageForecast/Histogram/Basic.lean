import UsageForecast.Histogram.Layout

/-!
# Decaying histograms

A histogram spreads sample weights over the buckets of a layout.  Decay
shrinks all weights alike and drops buckets that have become negligible; a
quantile is interpolated within its bucket.
-/

namespace UsageForecast

/-- Weights of the buckets of a layout, and their total. -/
structure Histogram (α : Type) where
  layout : Layout α
  weights : SortedMap Nat α
  total : α

structure Histogram.Bucket (α : Type) where
  index : Nat
  lowerBound : α
  weight : α

structure Histogram.Checkpoint (α : Type) where
  layout : Layout α
  totalWeight : α
  buckets : List (Histogram.Bucket α)

namespace Histogram

section

variable {α : Type} [Scalar α]

def empty (layout : Layout α) : Histogram α := ⟨layout, ∅, 0⟩

def isEmpty (histogram : Histogram α) : Bool := histogram.weights.isEmpty

/-- Buckets lighter than this are dropped by decay. -/
def leastWeight : α := Scalar.scientific 1 (-4)

/-- Multiply all weights by a factor below one and drop negligible
buckets. -/
def decay (histogram : Histogram α) (factor : α) : Histogram α :=
  if 1 ≤ factor then
    histogram
  else
    let weights :=
      (histogram.weights.mapValues fun _ weight => weight * factor).filter
        fun _ weight => decide (leastWeight ≤ weight)
    { histogram with weights, total := Scalar.sum weights.values }

/-- The value at a target weight, from a bucket list and the weight before
it; `last` is the index of the bucket before the list. -/
def locate (layout : Layout α) (target : α) (cumulative : α) (last : Nat) :
    List (Nat × α) → α
  | [] => layout.start (last + 1)
  | (index, weight) :: rest =>
      if target ≤ cumulative + weight then
        let fraction :=
          if 0 < weight then (target - cumulative) / weight else 0
        let low := layout.start index
        low + fraction * (layout.start (index + 1) - low)
      else
        locate layout target (cumulative + weight) index rest

/-- The interpolated value below which a share of the weight lies. -/
def quantile? (histogram : Histogram α) (share : α) : Option α :=
  if histogram.total ≤ 0 then
    none
  else
    let target := Scalar.clamp share 0 1 * histogram.total
    some (locate histogram.layout target 0 0 histogram.weights.entries)

def checkpoint (histogram : Histogram α) : Checkpoint α :=
  ⟨histogram.layout, histogram.total,
    histogram.weights.entries.map fun (index, weight) =>
      ⟨index, histogram.layout.start index, weight⟩⟩

/-- The histogram of a saved form; of a repeated bucket the last stays. -/
def ofCheckpoint (checkpoint : Checkpoint α) : Histogram α :=
  ⟨checkpoint.layout,
    SortedMap.ofList (checkpoint.buckets.map fun bucket =>
      (bucket.index, bucket.weight)),
    checkpoint.totalWeight⟩

end

/-- Add the weight of a sample to the bucket of its value. -/
def add {α : Type} [Analytic α] (histogram : Histogram α)
    (value weight : α) : Histogram α :=
  if weight ≤ 0 then
    histogram
  else if Scalar.isFinite value then
    let index := histogram.layout.find value
    { histogram with
      weights := histogram.weights.alter index fun old =>
        old.getD 0 + weight
      total := histogram.total + weight }
  else
    histogram

namespace Bucket

variable {α : Type} [Scalar α]

def toJson (bucket : Bucket α) : Json :=
  .object [
    ("index", Json.ofNat bucket.index),
    ("lowerBound", Json.ofScalar bucket.lowerBound),
    ("weight", Json.ofScalar bucket.weight)]

def ofJson? : Json → Option (Bucket α) :=
  Json.record do
    let index ← Json.required "index" Json.word?
    let lowerBound ← Json.required "lowerBound" Json.scalar?
    let weight ← Json.required "weight" Json.scalar?
    return ⟨index, lowerBound, weight⟩

instance : Codec (Bucket α) := ⟨toJson, ofJson?⟩

end Bucket

namespace Checkpoint

variable {α : Type} [Scalar α]

def toJson (checkpoint : Checkpoint α) : Json :=
  .object [
    ("options", checkpoint.layout.toJson),
    ("totalWeight", Json.ofScalar checkpoint.totalWeight),
    ("buckets", .array (checkpoint.buckets.map Bucket.toJson))]

def ofJson? : Json → Option (Checkpoint α) :=
  Json.record do
    let layout ← Json.required "options" Layout.ofJson?
    let totalWeight ← Json.required "totalWeight" Json.scalar?
    let buckets ← Json.required "buckets" (Json.listOf Bucket.ofJson?)
    return ⟨layout, totalWeight, buckets⟩

instance : Codec (Checkpoint α) := ⟨toJson, ofJson?⟩

end Checkpoint

end Histogram

end UsageForecast
