import UsageForecast.Time.Timestamp

/-!
# Caches of the last good snapshot

A cache serves the snapshot of its last successful refresh.  A failed refresh
is counted and remembered, and leaves the snapshot in place.
-/

namespace UsageForecast

structure Cache.Status where
  synced : Bool
  lastRefresh : Option Instant
  lastError : Option String
  consecutiveFailures : UInt32
deriving DecidableEq, Repr, Inhabited

def Cache.Status.toJson (status : Cache.Status) : Json :=
  .object [
    ("synced", .bool status.synced),
    ("lastRefresh", Json.ofOption Instant.toJson status.lastRefresh),
    ("lastError", Json.ofOption .string status.lastError),
    ("consecutiveFailures", Json.ofNat status.consecutiveFailures.toNat)]

/-- A snapshot with what is known about its refreshes. -/
structure Cache (σ : Type) where
  snapshot : Option σ
  lastRefresh : Option Instant
  lastError : Option String
  consecutiveFailures : UInt32

namespace Cache

variable {σ : Type}

def empty : Cache σ := ⟨none, none, none, 0⟩

def isSynced (cache : Cache σ) : Bool := cache.snapshot.isSome

def replace (_ : Cache σ) (now : Instant) (snapshot : σ) : Cache σ :=
  ⟨some snapshot, some now, none, 0⟩

def recordFailure (cache : Cache σ) (error : String) : Cache σ :=
  { cache with
    lastError := some error
    consecutiveFailures := cache.consecutiveFailures + 1 }

def refresh (cache : Cache σ) (now : Instant) :
    Except String σ → Cache σ
  | .ok snapshot => cache.replace now snapshot
  | .error error => cache.recordFailure error

def status (cache : Cache σ) : Status :=
  ⟨cache.isSynced, cache.lastRefresh, cache.lastError,
    cache.consecutiveFailures⟩

end Cache

end UsageForecast
