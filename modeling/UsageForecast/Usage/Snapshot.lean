import UsageForecast.Estimator.Basic
import UsageForecast.Quantity.Reading

/-!
# Snapshots of usage

A back end delivers its usage as a snapshot: for each pod the time of the
observation and what was measured in each container.  Measurements are kept as
they were delivered and are only read when they are asked for.
-/

namespace UsageForecast

/-- A usage value as a back end delivers it. -/
inductive Measurement (α : Type) where
  | text (quantity : String)
  | value (amount : α)

/-- What was measured in the containers of a pod at one time. -/
structure PodUsage (α : Type) where
  timestamp : Instant
  containers : SortedMap String (SortedMap Resource (Measurement α))

abbrev UsageSnapshot (α : Type) := SortedMap PodName (PodUsage α)

/-- The admitted value of a measurement. -/
def Measurement.read {α : Type} [Scalar α] (resource : Resource) :
    Measurement α → Except Failure α
  | .text quantity =>
      (Quantity.parse quantity resource).mapError fun fault =>
        fault.failure quantity
  | .value amount =>
      (Quantity.check amount resource).mapError fun fault =>
        fault.failure (Scalar.display amount)

namespace PodUsage

variable {α : Type}

def empty (timestamp : Instant) : PodUsage α := ⟨timestamp, ∅⟩

/-- Add a measurement; it replaces an earlier one of the same resource. -/
def insert (usage : PodUsage α) (container : String) (resource : Resource)
    (measurement : Measurement α) : PodUsage α :=
  { usage with
    containers := usage.containers.alter container fun measured =>
      (measured.getD ∅).insert resource measurement }

def find? (usage : PodUsage α) (container : String) (resource : Resource) :
    Option (Measurement α) := do
  let measured ← usage.containers.find? container
  measured.find? resource

end PodUsage

end UsageForecast
