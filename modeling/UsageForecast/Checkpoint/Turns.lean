import UsageForecast.Interleaving
import UsageForecast.SortedMap

/-!
# Taking turns at a checkpoint file

Calls on one file of a directory take turns: each looks up the lock of its
file in a table, waits for the lock, works on the file and leaves.  A call
that has deleted the file also takes the lock out of the table, provided that
nobody else refers to it, so that the table does not grow without bound.
-/

namespace UsageForecast.Turns

inductive Work where
  | save
  | load
  | delete
deriving DecidableEq, Repr, Inhabited

/-- Where a call stands; locks go by number. -/
inductive Stage where
  | arriving
  /-- The call refers to a lock that it does not hold yet. -/
  | waiting (lock : Nat)
  /-- The call holds the lock and works on the file. -/
  | working (lock : Nat)
  /-- The file has been deleted, and the table is looked at once more. -/
  | tidying (lock : Nat)
  /-- The call is done with the file and still holds the lock. -/
  | leaving (lock : Nat)
  /-- The call has let go of the lock and still refers to it. -/
  | parting (lock : Nat)
  | gone
deriving DecidableEq, Repr, Inhabited

structure Call where
  work : Work
  stem : String
  succeeds : Bool
  stage : Stage
deriving DecidableEq, Repr, Inhabited

/-- The locks: those in the table, the reference of each call to its lock, and
the locks that are held. -/
structure Locks where
  table : SortedMap String Nat
  references : List Nat
  held : List Nat
  /-- The number of the next new lock. -/
  fresh : Nat

def Locks.initial : Locks := ⟨∅, [], [], 0⟩

/-- How many references to a lock there are, that of the table included. -/
def Locks.count (locks : Locks) (lock : Nat) : Nat :=
  locks.table.values.count lock + locks.references.count lock

/-- Refer to the lock of a stem, which is put into the table if it is
absent. -/
def Locks.refer (locks : Locks) (stem : String) : Locks × Nat :=
  match locks.table.find? stem with
  | some lock =>
      ({ locks with references := lock :: locks.references }, lock)
  | none =>
      let lock := locks.fresh
      (⟨locks.table.insert stem lock, lock :: locks.references, locks.held,
        lock + 1⟩, lock)

/-- Take the lock of a stem out of the table if only the table and one call
refer to it. -/
def Locks.tidy (locks : Locks) (stem : String) : Locks :=
  match locks.table.find? stem with
  | none => locks
  | some lock =>
      if locks.count lock = 2 then
        { locks with table := locks.table.erase stem }
      else
        locks

def Locks.release (locks : Locks) (lock : Nat) : Locks :=
  { locks with held := locks.held.erase lock }

/-- Drop a reference to a lock. -/
def Locks.forget (locks : Locks) (lock : Nat) : Locks :=
  { locks with references := locks.references.erase lock }

/-- The next step of a call; a call whose lock is held waits. -/
def step (locks : Locks) (call : Call) : Option (Locks × Call) :=
  match call.stage with
  | .arriving =>
      let (locks, lock) := locks.refer call.stem
      some (locks, { call with stage := .waiting lock })
  | .waiting lock =>
      if locks.held.contains lock then
        none
      else
        some ({ locks with held := lock :: locks.held },
          { call with stage := .working lock })
  | .working lock =>
      -- Only a deletion that succeeds leaves a lock that may be dropped.
      let tidies := call.work == .delete && call.succeeds
      some (locks,
        { call with stage := if tidies then .tidying lock else .leaving lock })
  | .tidying lock =>
      some (locks.tidy call.stem, { call with stage := .leaving lock })
  | .leaving lock =>
      some (locks.release lock, { call with stage := .parting lock })
  | .parting lock =>
      some (locks.forget lock, { call with stage := .gone })
  | .gone => none

def Call.IsWorking (call : Call) : Prop :=
  match call.stage with
  | .working _ => True
  | _ => False

end UsageForecast.Turns
