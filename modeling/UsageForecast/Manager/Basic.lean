import UsageForecast.Profiler.Cycle
import UsageForecast.Telemetry

/-!
# The manager of profiles

The manager registers profiles once the cluster and some usage are known, and
keeps the latest published result of each.  A round runs every registered
profile once; garbage collection deletes old checkpoints of profiles that are
not registered.
-/

namespace UsageForecast

/-- The registered profilers, their latest results, and whether
registrations are accepted. -/
structure Manager (α : Type) where
  registry : SortedMap ProfileKey (Profiler α)
  results : SortedMap ProfileKey (ProfileResult α)
  started : Bool

namespace Manager

structure Summary where
  profiles : Nat
  succeeded : Nat
  skipped : Nat
  failed : Nat
deriving DecidableEq, Repr, Inhabited

/-- Write a summary as a record, with the most checkpoints that were saved at
once if that is known. -/
def Summary.toJson (summary : Summary) (peakSaves : Option Nat) : Json :=
  .object ([
    ("profiles", Json.ofNat summary.profiles),
    ("succeeded", Json.ofNat summary.succeeded),
    ("skipped", Json.ofNat summary.skipped),
    ("failed", Json.ofNat summary.failed)]
    ++ (peakSaves.map fun saves => ("peakSaves", Json.ofNat saves)).toList)

/-- A registered profile as it is handed to publishers. -/
structure Status (α : Type) where
  key : ProfileKey
  owner : Option Owner
  result : ProfileResult α

variable {α : Type}

def initial : Manager α := ⟨∅, ∅, false⟩

/-- Start if the cluster and some usage are known. -/
def tryStart (manager : Manager α) (resolver : Resolver)
    (repository : Repository α) : Manager α :=
  { manager with
    started := manager.started
      || (resolver.isSynced && repository.isSynced) }

def isRegistered (manager : Manager α) (key : ProfileKey) : Bool :=
  manager.registry.contains key

def size (manager : Manager α) : Nat := manager.registry.size

def keys (manager : Manager α) : List ProfileKey := manager.registry.keys

def result (manager : Manager α) (key : ProfileKey) :
    Except Failure (ProfileResult α) :=
  if !manager.started then
    .error .notStarted
  else if manager.isRegistered key then
    .ok ((manager.results.find? key).getD ∅)
  else
    .error (.notRegistered key.display)

def statuses (manager : Manager α) : List (Status α) :=
  manager.registry.entries.map fun (key, profiler) =>
    ⟨key, profiler.spec.owner, (manager.results.find? key).getD ∅⟩

/-- Put a profiler in place and keep what it has published. -/
def install (manager : Manager α) (key : ProfileKey)
    (profiler : Profiler α) : Manager α :=
  { manager with
    registry := manager.registry.insert key profiler
    results := manager.results.insert key profiler.result }

/-- Remove a profile; its checkpoint stays until garbage collection. -/
def unregister (manager : Manager α) (key : ProfileKey) :
    Except Failure (Manager α) :=
  if manager.isRegistered key then
    .ok { manager with
      registry := manager.registry.erase key
      results := manager.results.erase key }
  else
    .error (.notRegistered key.display)

def toJson [Scalar α] (manager : Manager α) : Json :=
  .array (manager.statuses.map fun status =>
    .object [
      ("key", status.key.toJson),
      ("owner", Json.ofOption QualifiedName.toJson status.owner),
      ("result", status.result.toJson)])

def accept [Scalar α] (manager : Manager α) (resolver : Resolver)
    (key : ProfileKey) (spec : Spec α) : Except Failure Unit := do
  if !manager.started then
    throw .notStarted
  spec.validate.mapError Failure.invalidSpec
  if !key.agrees spec then
    throw (.invalidSpec (.foreignKey key.display))
  match key.target with
  | .pods .. => return
  | .workload workload =>
      if resolver.supports workload.kind then
        return
      else
        throw (.unsupportedKind workload.kind)

structure Registration (α : Type) where
  manager : Manager α
  /-- Whether the profile is new. -/
  created : Bool
  /-- Whether a checkpoint was restored. -/
  restored : Bool
  /-- Whether a checkpoint could not be loaded. -/
  unreadable : Bool

variable [Analytic α]

/-- Restore what a store answered for the key of a profiler.  Without a
checkpoint, or with one that cannot be loaded, the profiler stays as it is;
says whether one was restored. -/
def restoreFrom (profiler : Profiler α) (now : Instant) :
    Except Failure (Option (Checkpoint α)) →
    Except Crash (Profiler α × Bool)
  | .ok (some checkpoint) => do
      return (← profiler.restore now checkpoint, true)
  | .ok none => .ok (profiler, false)
  | .error _ => .ok (profiler, false)

variable {σ : Type} [CheckpointStore σ α]

/-- Register a profile that has been accepted: a known one gets the new spec,
a new one starts from its checkpoint. -/
def enter (manager : Manager α) (now : Instant) (store : σ)
    (key : ProfileKey) (spec : Spec α) :
    Except Crash (Registration α) :=
  match manager.registry.find? key with
  | some profiler =>
      .ok ⟨manager.install key (profiler.update spec), false, false, false⟩
  | none => do
      let stored : Except Failure (Option (Checkpoint α)) :=
        CheckpointStore.load store key
      let (profiler, restored) ←
        restoreFrom (.create key spec) now stored
      return ⟨manager.install key profiler, true, restored, !stored.isOk⟩

def register (manager : Manager α) (resolver : Resolver) (now : Instant)
    (store : σ) (key : ProfileKey) (spec : Spec α) :
    Except Crash (Except Failure (Registration α)) :=
  match manager.accept resolver key spec with
  | .error failure => .ok (.error failure)
  | .ok _ => .ok <$> manager.enter now store key spec

end Manager

end UsageForecast
