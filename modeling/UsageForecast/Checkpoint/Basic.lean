import UsageForecast.Estimator.Saved
import UsageForecast.Profile.Key

/-!
# Checkpoints

A checkpoint holds the saved estimators of every entry of a profile with the
time of the save.  Stores answer what they hold by key, and list the keys and
times of all their checkpoints.
-/

namespace UsageForecast

abbrev Checkpoint.Entry (α : Type) := SortedMap Resource (Estimator.State α)

/-- The saved state of a profile. -/
structure Checkpoint (α : Type) where
  key : ProfileKey
  savedAt : Instant
  entries : SortedMap String (Checkpoint.Entry α)

namespace Checkpoint

/-- What a listing tells of a checkpoint. -/
structure Info where
  key : ProfileKey
  savedAt : Instant
deriving DecidableEq, Inhabited

def info {α : Type} (checkpoint : Checkpoint α) : Info :=
  ⟨checkpoint.key, checkpoint.savedAt⟩

variable {α : Type} [Scalar α]

def entryToJson (entry : Entry α) : Json :=
  Json.ofMap Resource.name Estimator.State.toJson entry

def entryOfJson? : Json → Option (Entry α) :=
  Json.mapOf Resource.ofName? Estimator.State.ofJson?

def entriesToJson (entries : SortedMap String (Entry α)) : Json :=
  Json.ofMap id entryToJson entries

def toJson (checkpoint : Checkpoint α) : Json :=
  .object [
    ("key", checkpoint.key.toJson),
    ("savedAt", checkpoint.savedAt.toJson),
    ("entries", entriesToJson checkpoint.entries)]

def ofJson? : Json → Option (Checkpoint α) :=
  Json.record do
    let key ← Json.required "key" ProfileKey.ofJson?
    let savedAt ← Json.required "savedAt" Instant.ofJson?
    let entries ← Json.required "entries" (Json.mapOf some entryOfJson?)
    return ⟨key, savedAt, entries⟩

instance : Codec (Checkpoint α) := ⟨toJson, ofJson?⟩

end Checkpoint

end UsageForecast
