import UsageForecast.Resource
import UsageForecast.Scalar.Basic

/-!
# Layouts of histogram buckets

Bucket sizes grow by a constant ratio from the first bucket on, so bucket
starts are a geometric sum and the index of a value is a logarithm.  The last
bucket takes every value beyond the largest one of the layout.
-/

namespace UsageForecast

/-- The sizes of the buckets of a histogram. -/
structure Layout (α : Type) where
  firstBucketSize : α
  ratio : α
  maxValue : α

namespace Layout

section

variable {α : Type} [Scalar α]

def forResource (resource : Resource) : Layout α :=
  let ratio := Scalar.scientific 105 (-2)
  match resource with
  | .cpu => ⟨Scalar.scientific 1 (-2), ratio, Scalar.scientific 1 3⟩
  | .memory => ⟨Scalar.scientific 1 7, ratio, Scalar.scientific 1 12⟩
  | _ => ⟨1, ratio, Scalar.scientific 1 12⟩

/-- Where a bucket starts.  The index counts as a signed 32-bit word. -/
def start (layout : Layout α) (index : Nat) : α :=
  let exponent := (index : Int).bmod UInt32.size
  layout.firstBucketSize * (Scalar.power layout.ratio exponent - 1)
    / (layout.ratio - 1)

def toJson (layout : Layout α) : Json :=
  .object [
    ("firstBucketSize", Json.ofScalar layout.firstBucketSize),
    ("ratio", Json.ofScalar layout.ratio),
    ("maxValue", Json.ofScalar layout.maxValue)]

def ofJson? : Json → Option (Layout α) :=
  Json.record do
    let firstBucketSize ← Json.required "firstBucketSize" Json.scalar?
    let ratio ← Json.required "ratio" Json.scalar?
    let maxValue ← Json.required "maxValue" Json.scalar?
    return ⟨firstBucketSize, ratio, maxValue⟩

instance : Codec (Layout α) := ⟨toJson, ofJson?⟩

end

section

variable {α : Type} [Analytic α]

/-- The real index at which a value lies. -/
def rawIndex (layout : Layout α) (value : α) : α :=
  Analytic.log (value * (layout.ratio - 1) / layout.firstBucketSize + 1)
    / Analytic.log layout.ratio

def lastIndex (layout : Layout α) : Nat :=
  Analytic.ceilIndex (layout.rawIndex layout.maxValue)

def bucketCount (layout : Layout α) : Nat := layout.lastIndex + 1

/-- The bucket that takes a value. -/
def find (layout : Layout α) (value : α) : Nat :=
  if value ≤ 0 then 0
  else min (Analytic.floorIndex (layout.rawIndex value)) layout.lastIndex

end

end Layout

end UsageForecast
