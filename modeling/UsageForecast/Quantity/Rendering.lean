import UsageForecast.Resource
import UsageForecast.Scalar.Basic

/-!
# Usage quantities, written

Processor time is published in thousandths of a core, memory in whole bytes,
and any other resource as a number with at most three decimal places.
-/

namespace UsageForecast.Quantity

variable {α : Type} [Scalar α]

def thousandfold (value : α) : α := value * Scalar.scientific 1000 0

def isWhole (value : α) : Bool :=
  Scalar.isFinite value && Scalar.same (Scalar.round value) value

/-- The text of a quantity of a resource. -/
def render (resource : Resource) (value : α) : String :=
  match resource with
  | .cpu =>
      let units := Scalar.truncate (Scalar.round (thousandfold value))
      s!"{units}m"
  | .memory =>
      let units := Scalar.truncate (Scalar.round value)
      s!"{units}"
  | _ =>
      let rounded :=
        Scalar.round (thousandfold value) / Scalar.scientific 1000 0
      if isWhole rounded then
        let units := Scalar.truncate rounded
        s!"{units}"
      else
        Scalar.display rounded

end UsageForecast.Quantity
