import UsageForecast.Estimator.Saved

/-!
# Results of profiles

A result holds the summaries of the resources of every entry of a profile.
-/

namespace UsageForecast

abbrev EntryResult (α : Type) := SortedMap Resource (Summary α)

/-- The summaries of all entries of a profile by name. -/
abbrev ProfileResult (α : Type) := SortedMap String (EntryResult α)

variable {α : Type} [Scalar α]

namespace EntryResult

def toJson (entry : EntryResult α) : Json :=
  .object [("resources", Json.ofMap Resource.name Summary.toJson entry)]

def ofJson? : Json → Option (EntryResult α) :=
  Json.record (Json.required "resources"
    (Json.mapOf Resource.ofName? Summary.ofJson?))

instance : Codec (EntryResult α) := ⟨toJson, ofJson?⟩

end EntryResult

namespace ProfileResult

def toJson (result : ProfileResult α) : Json :=
  Json.ofMap id EntryResult.toJson result

def ofJson? : Json → Option (ProfileResult α) :=
  Json.mapOf some EntryResult.ofJson?

instance : Codec (ProfileResult α) := ⟨toJson, ofJson?⟩

end ProfileResult

end UsageForecast
