import UsageForecast.Checkpoint.Store

/-!
# Stores with faults

A store whose operations can be made to fail, and a store of either of two
kinds.
-/

namespace UsageForecast

inductive FaultyStore.Operation where
  | save
  | load
  | delete
  | list
deriving DecidableEq, Repr, Inhabited

namespace FaultyStore.Operation

def name : Operation → String
  | .save => "save"
  | .load => "load"
  | .delete => "delete"
  | .list => "list"

def ofName? (name : String) : Option Operation :=
  [save, load, delete, list].find? fun operation => operation.name == name

end FaultyStore.Operation

/-- A store with the operations that it refuses. -/
structure FaultyStore (σ : Type) where
  inner : σ
  refused : List FaultyStore.Operation

namespace FaultyStore

variable {σ α : Type}

def refusal? (store : FaultyStore σ) (operation : Operation) :
    Option Failure :=
  if store.refused.contains operation then
    some (.checkpoint s!"{operation.name} refused")
  else
    none

/-- Perform an operation that changes the store, unless it is refused. -/
def change {β : Type} (store : FaultyStore σ) (operation : Operation)
    (perform : σ → σ × Except Failure β) :
    FaultyStore σ × Except Failure β :=
  match store.refusal? operation with
  | some failure => (store, .error failure)
  | none =>
      let (inner, outcome) := perform store.inner
      ({ store with inner }, outcome)

def look {β : Type} (store : FaultyStore σ) (operation : Operation)
    (perform : σ → Except Failure β) : Except Failure β :=
  match store.refusal? operation with
  | some failure => .error failure
  | none => perform store.inner

instance [CheckpointStore σ α] : CheckpointStore (FaultyStore σ) α where
  save store checkpoint :=
    store.change .save fun inner => CheckpointStore.save inner checkpoint
  load store key :=
    store.look .load fun inner => CheckpointStore.load inner key
  delete store key :=
    store.change .delete fun inner => CheckpointStore.delete α inner key
  list store := store.look .list (CheckpointStore.list α)

end FaultyStore

/-- Perform a change on whichever of two kinds a store is. -/
def changeEither {σ τ β : Type} (left : σ → σ × β) (right : τ → τ × β) :
    σ ⊕ τ → (σ ⊕ τ) × β
  | .inl store =>
      let (store, outcome) := left store
      (.inl store, outcome)
  | .inr store =>
      let (store, outcome) := right store
      (.inr store, outcome)

instance {σ τ α : Type} [CheckpointStore σ α] [CheckpointStore τ α] :
    CheckpointStore (σ ⊕ τ) α where
  save store checkpoint :=
    changeEither (CheckpointStore.save · checkpoint)
      (CheckpointStore.save · checkpoint) store
  load store key :=
    match store with
    | .inl store => CheckpointStore.load store key
    | .inr store => CheckpointStore.load store key
  delete store key :=
    changeEither (CheckpointStore.delete α · key)
      (CheckpointStore.delete α · key) store
  list store :=
    match store with
    | .inl store => CheckpointStore.list α store
    | .inr store => CheckpointStore.list α store

end UsageForecast
