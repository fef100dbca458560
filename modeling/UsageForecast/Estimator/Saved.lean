import UsageForecast.Estimator.Basic

/-!
# Samples, summaries and saved estimators in structured data

Each record is written with all its fields in a fixed order and is read back
field by field.
-/

namespace UsageForecast

def countOfJson? (value : Json) : Option UInt64 :=
  (Json.word? value).map UInt64.ofNat

variable {α : Type} [Scalar α]

namespace Sample

def toJson (sample : Sample α) : Json :=
  .object [("timestamp", sample.timestamp.toJson),
    ("value", Json.ofScalar sample.value)]

def ofJson? : Json → Option (Sample α) :=
  Json.record do
    let timestamp ← Json.required "timestamp" Instant.ofJson?
    let value ← Json.required "value" Json.scalar?
    return ⟨timestamp, value⟩

instance : Codec (Sample α) := ⟨toJson, ofJson?⟩

end Sample

def quantilesToJson (quantiles : SortedMap String α) : Json :=
  Json.ofMap id Json.ofScalar quantiles

def quantilesOfJson? : Json → Option (SortedMap String α) :=
  Json.mapOf some Json.scalar?

namespace Summary

def toJson (summary : Summary α) : Json :=
  .object [
    ("mean", Json.ofScalar summary.mean),
    ("stdDev", Json.ofScalar summary.stdDev),
    ("quantiles", quantilesToJson summary.quantiles),
    ("firstSampleStart",
      Json.ofOption Instant.toJson summary.firstSampleStart),
    ("lastSampleStart",
      Json.ofOption Instant.toJson summary.lastSampleStart),
    ("totalSamplesCount", Json.ofNat summary.totalSamplesCount.toNat)]

def ofJson? : Json → Option (Summary α) :=
  Json.record do
    let mean ← Json.required "mean" Json.scalar?
    let stdDev ← Json.required "stdDev" Json.scalar?
    let quantiles ← Json.required "quantiles" quantilesOfJson?
    let firstSampleStart ← Json.nameable "firstSampleStart" Instant.ofJson?
    let lastSampleStart ← Json.nameable "lastSampleStart" Instant.ofJson?
    let totalSamplesCount ← Json.required "totalSamplesCount" countOfJson?
    return {
      mean, stdDev, quantiles, firstSampleStart, lastSampleStart
      totalSamplesCount }

instance : Codec (Summary α) := ⟨toJson, ofJson?⟩

end Summary

namespace Estimator.State

def toJson (state : State α) : Json :=
  .object [
    ("mean", Json.ofScalar state.mean),
    ("stdDev", Json.ofScalar state.stdDev),
    ("varianceSum", Json.ofScalar state.varianceSum),
    ("minValue", Json.ofScalar state.minValue),
    ("maxValue", Json.ofScalar state.maxValue),
    ("quantiles", quantilesToJson state.quantiles),
    ("firstSampleStart",
      Json.ofOption Instant.toJson state.firstSampleStart),
    ("lastSampleStart", Json.ofOption Instant.toJson state.lastSampleStart),
    ("totalSamplesCount", Json.ofNat state.totalSamplesCount.toNat),
    ("histogram", state.histogram.toJson)]

def ofJson? : Json → Option (State α) :=
  Json.record do
    let mean ← Json.required "mean" Json.scalar?
    let stdDev ← Json.required "stdDev" Json.scalar?
    let varianceSum ← Json.required "varianceSum" Json.scalar?
    let minValue ← Json.required "minValue" Json.scalar?
    let maxValue ← Json.required "maxValue" Json.scalar?
    let quantiles ← Json.required "quantiles" quantilesOfJson?
    let firstSampleStart ← Json.nameable "firstSampleStart" Instant.ofJson?
    let lastSampleStart ← Json.nameable "lastSampleStart" Instant.ofJson?
    let totalSamplesCount ← Json.required "totalSamplesCount" countOfJson?
    let histogram ←
      Json.required "histogram" Histogram.Checkpoint.ofJson?
    return {
      mean, stdDev, varianceSum, minValue, maxValue, quantiles
      firstSampleStart, lastSampleStart, totalSamplesCount, histogram }

instance : Codec (State α) := ⟨toJson, ofJson?⟩

def sameQuantiles (left right : SortedMap String α) : Bool :=
  left.keys == right.keys
    && (left.values.zip right.values).all fun (left, right) =>
      Scalar.same left right

def sameLayout (left right : Layout α) : Bool :=
  Scalar.same left.firstBucketSize right.firstBucketSize
    && Scalar.same left.ratio right.ratio
    && Scalar.same left.maxValue right.maxValue

def sameBucket (left right : Histogram.Bucket α) : Bool :=
  left.index == right.index
    && Scalar.same left.lowerBound right.lowerBound
    && Scalar.same left.weight right.weight

def sameHistogram (left right : Histogram.Checkpoint α) : Bool :=
  sameLayout left.layout right.layout
    && Scalar.same left.totalWeight right.totalWeight
    && left.buckets.length == right.buckets.length
    && (left.buckets.zip right.buckets).all fun (left, right) =>
      sameBucket left right

/-- Whether saved states are equal as numbers: an undefined statistic equals
nothing. -/
def same (left right : State α) : Bool :=
  Scalar.same left.mean right.mean
    && Scalar.same left.stdDev right.stdDev
    && Scalar.same left.varianceSum right.varianceSum
    && Scalar.same left.minValue right.minValue
    && Scalar.same left.maxValue right.maxValue
    && sameQuantiles left.quantiles right.quantiles
    && left.firstSampleStart == right.firstSampleStart
    && left.lastSampleStart == right.lastSampleStart
    && left.totalSamplesCount == right.totalSamplesCount
    && sameHistogram left.histogram right.histogram

end Estimator.State

end UsageForecast
