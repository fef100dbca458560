import UsageForecast.Failure
import UsageForecast.Scalar.Basic
import UsageForecast.Decimal.Literal

/-!
# Quantile labels

A label such as `p99.9` names a share of the samples by its percentage, which
is positive and at most one hundred.
-/

namespace UsageForecast

/-- A share of the samples and the label it is reported under. -/
structure Quantile (α : Type) where
  label : String
  share : α

namespace Quantile

/-- The labels reported when a model names none. -/
def defaultLabels : List String := ["p50", "p90", "p99"]

section

variable {α : Type} [Scalar α]

def percentage? (label : String) : Option α :=
  match label.toList with
  | 'p' :: digits => Numeral.parse? digits >>= Scalar.ofNumeral?
  | _ => none

def parse (label : String) : Except SpecFault (Quantile α) :=
  match percentage? label with
  | some percentage =>
      let hundred : α := Scalar.scientific 100 0
      if 0 < percentage ∧ percentage ≤ hundred then
        .ok ⟨label, percentage / hundred⟩
      else
        .error (.quantileLabel label)
  | none => .error (.quantileLabel label)

/-- The quantiles of a list of labels, those of the default labels for an
empty list. -/
def parseAll (labels : List String) : Except SpecFault (List (Quantile α)) :=
  (if labels.isEmpty then defaultLabels else labels).mapM parse

end

end Quantile

end UsageForecast
