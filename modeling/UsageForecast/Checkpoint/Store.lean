import UsageForecast.Checkpoint.Basic
import UsageForecast.Failure

/-!
# Stores of checkpoints

What the engine asks of a store, and the store that keeps checkpoints in
memory: it answers for every key the checkpoint that was saved last and has
not been deleted.
-/

namespace UsageForecast

/-- The operations of a store of checkpoints.  A failed operation may leave
traces in the store. -/
class CheckpointStore (σ : Type) (α : Type) where
  /-- Keep a checkpoint in place of an earlier one of its key. -/
  save : σ → Checkpoint α → σ × Except Failure Unit
  load : σ → ProfileKey → Except Failure (Option (Checkpoint α))
  /-- Drop the checkpoint of a key; says whether there was one. -/
  delete : σ → ProfileKey → σ × Except Failure Bool
  list : σ → Except Failure (List Checkpoint.Info)

abbrev MemoryStore (α : Type) := SortedMap ProfileKey (Checkpoint α)

namespace MemoryStore

variable {α : Type}

def save (store : MemoryStore α) (checkpoint : Checkpoint α) :
    MemoryStore α :=
  store.insert checkpoint.key checkpoint

def infos (store : MemoryStore α) : List Checkpoint.Info :=
  store.values.map Checkpoint.info

instance : CheckpointStore (MemoryStore α) α where
  save store checkpoint := (store.save checkpoint, .ok ())
  load store key := .ok (store.find? key)
  delete store key := (store.erase key, .ok (store.contains key))
  list store := .ok store.infos

end MemoryStore

end UsageForecast
