import UsageForecast.Profile.Result
import UsageForecast.Quantity.Rendering

/-!
# Published bodies

A published body lists the entries of a result by name, with quantities in
the units that clusters use and times with their offset spelled out.  Bodies
are compared to find out whether there is anything new to publish.
-/

namespace UsageForecast

structure Body.Summary where
  mean : String
  stdDev : String
  quantiles : SortedMap String String
  samples : Nat
  firstSampleStart : Option String
  lastSampleStart : Option String
deriving DecidableEq, Inhabited

/-- The published summaries of all entries of a result by name. -/
abbrev Body := SortedMap String (SortedMap Resource Body.Summary)

namespace Body

section

variable {α : Type} [Scalar α]

def Summary.ofSummary (resource : Resource)
    (summary : UsageForecast.Summary α) : Summary :=
  { mean := Quantity.render resource summary.mean
    stdDev := Quantity.render resource summary.stdDev
    quantiles := summary.quantiles.mapValues fun _ value =>
      Quantity.render resource value
    samples := summary.totalSamplesCount.toNat
    firstSampleStart :=
      summary.firstSampleStart.map Timestamp.writeOffset
    lastSampleStart := summary.lastSampleStart.map Timestamp.writeOffset }

def ofResult (result : ProfileResult α) : Body :=
  result.mapValues fun _ entry =>
    entry.mapValues fun resource summary => .ofSummary resource summary

end

/-- A member that is left out where there is no value. -/
def memberOf (name : String) : Option String → List (String × Json)
  | none => []
  | some text => [(name, .string text)]

def Summary.toJson (summary : Summary) : Json :=
  .object ([
    ("mean", .string summary.mean),
    ("stddev", .string summary.stdDev),
    ("quantiles", Json.ofMap id .string summary.quantiles),
    ("totalSamplesCount", Json.ofNat summary.samples)]
    ++ memberOf "firstSampleStart" summary.firstSampleStart
    ++ memberOf "lastSampleStart" summary.lastSampleStart)

/-- Write a body as a record with the list of its entries. -/
def toJson (body : Body) : Json :=
  .object [("containers", .array (body.entries.map fun (name, entry) =>
    .object [
      ("containerName", .string name),
      ("resources", Json.ofMap Resource.name Summary.toJson entry)]))]

end Body

end UsageForecast
