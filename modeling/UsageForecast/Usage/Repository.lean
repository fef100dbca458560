import UsageForecast.Cache
import UsageForecast.Profile.Key
import UsageForecast.Usage.Snapshot

/-!
# The usage repository

The repository keeps the last good snapshot of every configured source.  It
answers what was used by a container in each of a list of pods, from the
snapshot of one source; malformed values are dropped and counted.

An answer is a hash map with a seed of its own, so that the pods of each
answer may be listed in any order.
-/

namespace UsageForecast

/-- The numbers by which the answers to the queries of a profile list their
pods: each query is asked for each container. -/
abbrev Hashes :=
  ProfileKey → (container : String) → Source × Resource → PodName → Nat

/-- All answers list their pods by name. -/
def Hashes.equal : Hashes := fun _ _ _ _ => 0

/-- The caches of all configured sources. -/
structure Repository (α : Type) where
  caches : SortedMap Source (Cache (UsageSnapshot α))
  hashes : Hashes := .equal

/-- The samples of a query by pod, and how many values were malformed. -/
structure UsageAnswer (α : Type) where
  samples : SortedMap PodName (Sample α)
  malformed : Nat

namespace Repository

variable {α : Type}

def ofSources (sources : List Source) : Repository α :=
  { caches := SortedMap.ofList
      (sources.map fun source => (source, Cache.empty)) }

/-- The same caches, which list the pods of their answers by other hashes. -/
def seeded (repository : Repository α) (hashes : Hashes) : Repository α :=
  { repository with hashes }

def sources (repository : Repository α) : List Source :=
  repository.caches.keys

def cache (repository : Repository α) (source : Source) :
    Except Failure (Cache (UsageSnapshot α)) :=
  match repository.caches.find? source with
  | some cache => .ok cache
  | none =>
      .error (.unavailable s!"no source configured for {source.display}")

/-- Take over the outcome of a fetch from a source.  A failed fetch keeps the
snapshot of the last good one. -/
def refresh (repository : Repository α) (now : Instant) (source : Source)
    (outcome : Except String (UsageSnapshot α)) :
    Repository α × Except Failure Unit :=
  match repository.cache source with
  | .error failure => (repository, .error failure)
  | .ok cache =>
      let next := { repository with
        caches := repository.caches.insert source
          (cache.refresh now outcome) }
      match outcome with
      | .ok _ => (next, .ok ())
      | .error error =>
          (next, .error (.unavailable s!"{source.display}: {error}"))

/-- Whether any source has been refreshed. -/
def isSynced (repository : Repository α) : Bool :=
  repository.caches.values.any Cache.isSynced

def statuses (repository : Repository α) : List (Source × Cache.Status) :=
  repository.caches.entries.map fun (source, cache) => (source, cache.status)

section

variable [Scalar α]

def UsageAnswer.add (snapshot : UsageSnapshot α) (resource : Resource)
    (container : String) (answer : UsageAnswer α) (pod : PodName) :
    UsageAnswer α :=
  match snapshot.find? pod with
  | none => answer
  | some usage =>
      match usage.find? container resource with
      | none => answer
      | some measurement =>
          match measurement.read resource with
          | .ok value =>
              { answer with
                samples := answer.samples.insert pod
                  ⟨usage.timestamp, value⟩ }
          | .error _ => { answer with malformed := answer.malformed + 1 }

/-- What the container of a name used of a resource in each of some pods,
from the snapshot of a source. -/
def usage (repository : Repository α) (source : Source)
    (resource : Resource) (container : String) (pods : List PodName) :
    Except Failure (UsageAnswer α) := do
  let cache ← repository.cache source
  match cache.snapshot with
  | none => .error (.unavailable s!"{source.display} has not synced yet")
  | some snapshot =>
      .ok (pods.foldl (UsageAnswer.add snapshot resource container) ⟨∅, 0⟩)

end

end Repository

end UsageForecast
