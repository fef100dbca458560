import UsageForecast.Interleaving
import UsageForecast.Manager.Basic

/-!
# Registrations of one key at the same time

Registrations and removals of a key, and a round that is under way, share the
registry and the results.  They are seen here as the single accesses that they
make, between which other calls may come.
-/

namespace UsageForecast.Manager

/-- What calls on one key share.  Profilers go by number, so that one that has
been replaced is told apart from its successor. -/
structure Slot (α : Type) where
  profilers : List (Profiler α)
  registered : Option Nat
  entry : Option (ProfileResult α)

inductive Call (α : Type) where
  | register (spec : Spec α)
  /-- No profiler was found; a new one has been made. -/
  | inserting (number : Nat) (spec : Spec α)
  | updating (number : Nat) (spec : Spec α)
  /-- The spec of a registered profiler has been stored. -/
  | following (number : Nat) (spec : Spec α)
  | reading (number : Nat)
  | recording (result : ProfileResult α)
  | unregister
  /-- The profiler is no longer registered; its result still stands. -/
  | erasing
  | round
  /-- The round has found a profiler. -/
  | profiling (number : Nat)
  /-- The cycle of the profiler has ended. -/
  | checking (number : Nat)
  | copying (number : Nat)
  | keeping (number : Nat) (result : ProfileResult α)
  | rechecking (number : Nat)
  | returned

namespace Slot

variable {α : Type}

def change (slot : Slot α) (number : Nat)
    (change : Profiler α → Profiler α) : Slot α :=
  { slot with profilers := slot.profilers.modify number change }

def published (slot : Slot α) (number : Nat) : ProfileResult α :=
  (slot.profilers[number]?).elim ∅ Profiler.result

/-- Whether the results agree with the registry: there is an entry exactly for
a registered profiler, and it is what that profiler has published. -/
def Consistent (slot : Slot α) : Prop :=
  slot.entry = slot.registered.map slot.published

variable [Analytic α]

/-- The next step of a call.  `create` makes the profiler of a new
registration, and `cycle` runs the cycle of one. -/
def step (create : Spec α → Profiler α)
    (cycle : Profiler α → Profiler α) (slot : Slot α) :
    Call α → Option (Slot α × Call α)
  | .register spec =>
      match slot.registered with
      | some number => some (slot, .updating number spec)
      | none =>
          some ({ slot with profilers := slot.profilers ++ [create spec] },
            .inserting slot.profilers.length spec)
  | .inserting number spec =>
      -- Another call may have registered the key in the meantime.
      match slot.registered with
      | some other => some (slot, .updating other spec)
      | none =>
          some ({ slot with registered := some number }, .reading number)
  | .updating number spec =>
      some (slot.change number (Profiler.storeSpec · spec),
        .following number spec)
  | .following number spec =>
      some (slot.change number (Profiler.follow · spec), .reading number)
  | .reading number => some (slot, .recording (slot.published number))
  | .recording result =>
      some ({ slot with entry := some result }, .returned)
  | .unregister =>
      match slot.registered with
      | some _ => some ({ slot with registered := none }, .erasing)
      | none => some (slot, .returned)
  | .erasing => some ({ slot with entry := none }, .returned)
  | .round =>
      match slot.registered with
      | some number => some (slot, .profiling number)
      | none => some (slot, .returned)
  | .profiling number => some (slot.change number cycle, .checking number)
  | .checking number =>
      if slot.registered = some number then
        some (slot, .copying number)
      else
        some (slot, .returned)
  | .copying number =>
      some (slot, .keeping number (slot.published number))
  | .keeping number result =>
      some ({ slot with entry := some result }, .rechecking number)
  | .rechecking number =>
      -- The profile may have been removed while its result was being kept.
      if slot.registered = some number then
        some (slot, .returned)
      else
        some ({ slot with entry := none }, .returned)
  | .returned => none

end Slot

end UsageForecast.Manager
