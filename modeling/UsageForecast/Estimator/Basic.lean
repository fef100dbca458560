import UsageForecast.Estimator.Quantile
import UsageForecast.Histogram.Basic
import UsageForecast.Time.Timestamp

/-!
# Estimators of usage distributions

An estimator keeps the running mean, spread and extremes of all samples of
one resource and a decaying histogram for its quantiles.  Its state can be
saved and loaded; its summary is what profiles report.
-/

namespace UsageForecast

structure Sample (α : Type) where
  timestamp : Instant
  value : α

structure Estimator.State (α : Type) where
  mean : α
  stdDev : α
  varianceSum : α
  minValue : α
  maxValue : α
  quantiles : SortedMap String α
  firstSampleStart : Option Instant
  lastSampleStart : Option Instant
  totalSamplesCount : UInt64
  histogram : Histogram.Checkpoint α

structure Summary (α : Type) where
  mean : α
  stdDev : α
  quantiles : SortedMap String α
  firstSampleStart : Option Instant
  lastSampleStart : Option Instant
  totalSamplesCount : UInt64

/-- The running statistics of the samples of one resource. -/
structure Estimator (α : Type) where
  quantiles : List (Quantile α)
  count : UInt64
  mean : α
  varianceSum : α
  least : α
  greatest : α
  firstSampleStart : Option Instant
  lastSampleStart : Option Instant
  histogram : Histogram α

/-- The factor by which sample weights shrink in a cycle so that they are
halved after a number of cycles; weights stay if that number is not positive
and finite. -/
def decayFactor {α : Type} [Analytic α] (halfLife : α) : α :=
  if Scalar.isFinite halfLife && decide (0 < halfLife) then
    Analytic.realPower (Scalar.scientific 5 (-1)) (1 / halfLife)
  else
    1

namespace Estimator

section

variable {α : Type} [Scalar α]

def empty (layout : Layout α) (quantiles : List (Quantile α)) :
    Estimator α :=
  { quantiles
    count := 0
    mean := 0
    varianceSum := 0
    least := 0
    greatest := 0
    firstSampleStart := none
    lastSampleStart := none
    histogram := Histogram.empty layout }

def forResource (resource : Resource) (quantiles : List (Quantile α)) :
    Estimator α :=
  empty (Layout.forResource resource) quantiles

def setQuantiles (estimator : Estimator α) (quantiles : List (Quantile α)) :
    Estimator α :=
  { estimator with quantiles }

def decay (estimator : Estimator α) (factor : α) : Estimator α :=
  { estimator with histogram := estimator.histogram.decay factor }

def size (estimator : Estimator α) : α :=
  NatCast.natCast estimator.count.toNat

/-- The value at a share of the samples: zero without samples, otherwise
that of the histogram, or the mean if it is empty, within the extremes. -/
def quantile (estimator : Estimator α) (share : α) : α :=
  if estimator.count = 0 then
    0
  else
    Scalar.clamp
      ((estimator.histogram.quantile? share).getD estimator.mean)
      estimator.least estimator.greatest

/-- Whether a quantile may be asked for: the extremes of samples have to be
ordered. -/
def Bounded (estimator : Estimator α) : Prop :=
  estimator.count = 0 ∨ estimator.least ≤ estimator.greatest

instance (estimator : Estimator α) : Decidable estimator.Bounded :=
  inferInstanceAs (Decidable (_ ∨ _))

/-- Whether all quantiles of an estimator can be reported. -/
def Reportable (estimator : Estimator α) : Prop :=
  estimator.quantiles = [] ∨ estimator.Bounded

instance (estimator : Estimator α) : Decidable estimator.Reportable :=
  if unlabelled : estimator.quantiles.isEmpty then
    isTrue (.inl (List.isEmpty_iff.1 unlabelled))
  else if bounded : estimator.Bounded then
    isTrue (.inr bounded)
  else
    isFalse fun reportable =>
      reportable.elim
        (fun empty => unlabelled (List.isEmpty_iff.2 empty)) bounded

/-- The reported values by label; of a repeated label the last stays. -/
def quantileValues (estimator : Estimator α) : SortedMap String α :=
  SortedMap.ofList (estimator.quantiles.map fun quantile =>
    (quantile.label, estimator.quantile quantile.share))

/-- The estimator that continues from a saved state. -/
def load (estimator : Estimator α) (state : State α) : Estimator α :=
  { quantiles := estimator.quantiles
    count := state.totalSamplesCount
    mean := state.mean
    varianceSum := state.varianceSum
    least := state.minValue
    greatest := state.maxValue
    firstSampleStart := state.firstSampleStart
    lastSampleStart := state.lastSampleStart
    histogram := Histogram.ofCheckpoint state.histogram }

end

section

variable {α : Type} [Analytic α]

/-- Fold a sample into the statistics; values that are not finite are
ignored. -/
def ingest (estimator : Estimator α) (sample : Sample α) : Estimator α :=
  if Scalar.isFinite sample.value then
    let value := sample.value
    let count := estimator.count + 1
    let delta := value - estimator.mean
    let mean := estimator.mean + delta / NatCast.natCast count.toNat
    { quantiles := estimator.quantiles
      count
      mean
      varianceSum := estimator.varianceSum + delta * (value - mean)
      -- The zeros of an estimator without samples are no extremes.
      least := if count = 1 then value
        else Scalar.smaller estimator.least value
      greatest := if count = 1 then value
        else Scalar.larger estimator.greatest value
      firstSampleStart := some <|
        match estimator.firstSampleStart with
        | some first => first.earliest sample.timestamp
        | none => sample.timestamp
      lastSampleStart := some <|
        match estimator.lastSampleStart with
        | some last => last.latest sample.timestamp
        | none => sample.timestamp
      histogram := estimator.histogram.add value 1 }
  else
    estimator

def stdDev (estimator : Estimator α) : α :=
  if estimator.count = 0 then 0
  else Analytic.sqrt
    (Scalar.larger (estimator.varianceSum / estimator.size) 0)

def state (estimator : Estimator α) : State α :=
  { mean := estimator.mean
    stdDev := estimator.stdDev
    varianceSum := estimator.varianceSum
    minValue := estimator.least
    maxValue := estimator.greatest
    quantiles := estimator.quantileValues
    firstSampleStart := estimator.firstSampleStart
    lastSampleStart := estimator.lastSampleStart
    totalSamplesCount := estimator.count
    histogram := estimator.histogram.checkpoint }

end

def State.summary {α : Type} (state : State α) : Summary α :=
  { mean := state.mean
    stdDev := state.stdDev
    quantiles := state.quantiles
    firstSampleStart := state.firstSampleStart
    lastSampleStart := state.lastSampleStart
    totalSamplesCount := state.totalSamplesCount }

def summary {α : Type} [Analytic α] (estimator : Estimator α) : Summary α :=
  estimator.state.summary

end Estimator

end UsageForecast
