import UsageForecast.Proofs.Lookup
import UsageForecast.Checkpoint.Store

/-!
# Stores that answer like maps

The laws of a store of checkpoints: as long as the keys in use have places of
their own, the store answers every call as a map does that undergoes the same
changes.  The store in memory is such a map itself.
-/

namespace UsageForecast

variable {σ α : Type}

namespace MemoryStore

/-- Every checkpoint is found under its own key. -/
def Keyed (store : MemoryStore α) : Prop :=
  ∀ key checkpoint, store.find? key = some checkpoint →
    checkpoint.key = key

theorem keyed_empty : (∅ : MemoryStore α).Keyed := nofun

theorem Keyed.save {store : MemoryStore α} (keyed : store.Keyed)
    (checkpoint : Checkpoint α) : (store.save checkpoint).Keyed := by
  intro key found held
  rw [MemoryStore.save, SortedMap.find?_insert] at held
  split at held
  next same =>
    cases held
    exact same.symm
  next => exact keyed key found held

theorem Keyed.erase {store : MemoryStore α} (keyed : store.Keyed)
    (key : ProfileKey) : Keyed (SortedMap.erase store key) := by
  intro other found held
  rw [SortedMap.find?_erase] at held
  split at held
  · cases held
  · exact keyed other found held

/-- A listing tells of exactly the checkpoints that are held. -/
theorem mem_infos_iff {store : MemoryStore α} {info : Checkpoint.Info} :
    info ∈ store.infos ↔
      ∃ key checkpoint, store.find? key = some checkpoint ∧
        checkpoint.info = info := by
  simp only [infos, List.mem_map, SortedMap.mem_values_iff]
  exact ⟨fun ⟨checkpoint, ⟨key, held⟩, same⟩ => ⟨key, checkpoint, held, same⟩,
    fun ⟨key, checkpoint, held, same⟩ => ⟨checkpoint, ⟨key, held⟩, same⟩⟩

theorem Keyed.mem_infos_iff {store : MemoryStore α} (keyed : store.Keyed)
    {info : Checkpoint.Info} :
    info ∈ store.infos ↔
      ∃ checkpoint, store.find? info.key = some checkpoint ∧
        checkpoint.info = info := by
  rw [MemoryStore.mem_infos_iff]
  constructor
  · rintro ⟨key, checkpoint, held, rfl⟩
    refine ⟨checkpoint, ?_, rfl⟩
    rw [show checkpoint.info.key = key from keyed key checkpoint held, held]
  · rintro ⟨checkpoint, held, same⟩
    exact ⟨info.key, checkpoint, held, same⟩

theorem Keyed.map_key_infos {store : MemoryStore α} (keyed : store.Keyed) :
    store.infos.map Checkpoint.Info.key = store.keys := by
  simp only [infos, SortedMap.values, SortedMap.keys, List.map_map]
  refine List.map_congr_left fun entry member => ?_
  exact keyed entry.1 entry.2 (SortedMap.find?_eq_some_iff.2 member)

theorem Keyed.infos_nodup {store : MemoryStore α} (keyed : store.Keyed) :
    store.infos.Nodup := by
  refine List.Nodup.of_map Checkpoint.Info.key ?_
  rw [keyed.map_key_infos]
  exact store.keys_nodup

end MemoryStore

/-- A store that answers as a map of checkpoints does. -/
class LawfulStore (σ α : Type) [CheckpointStore σ α] where
  /-- The store holds exactly the checkpoints of a map. -/
  Mirrors : σ → MemoryStore α → Prop
  /-- A checkpoint can be kept as it is. -/
  Storable : Checkpoint α → Prop
  /-- Two keys do not share a place in the store. -/
  Apart : ProfileKey → ProfileKey → Prop
  keyed {store : σ} {map : MemoryStore α} :
    Mirrors store map → map.Keyed
  apart {store : σ} {map : MemoryStore α} :
    Mirrors store map →
      ∀ key ∈ map.keys, ∀ other ∈ map.keys, Apart key other
  load_eq {store : σ} {map : MemoryStore α} :
    Mirrors store map →
      ∀ key, CheckpointStore.load store key = .ok (map.find? key)
  list_perm {store : σ} {map : MemoryStore α} :
    Mirrors store map →
      ∃ infos, CheckpointStore.list α store = .ok infos ∧
        infos.Perm map.infos
  save_eq {store : σ} {map : MemoryStore α} {checkpoint : Checkpoint α} :
    Mirrors store map → Storable checkpoint →
      (∀ key ∈ map.keys, Apart checkpoint.key key) →
        ∃ next, CheckpointStore.save store checkpoint = (next, .ok ()) ∧
          Mirrors next (map.save checkpoint)
  delete_eq {store : σ} {map : MemoryStore α} {key : ProfileKey} :
    Mirrors store map → (∀ other ∈ map.keys, Apart key other) →
      ∃ next,
        CheckpointStore.delete α store key =
            (next, .ok (map.contains key)) ∧
          Mirrors next (map.erase key)
  /-- What has been saved is loaded, whatever else the store holds. -/
  load_of_saved {store next : σ} {checkpoint : Checkpoint α} :
    Storable checkpoint →
      CheckpointStore.save store checkpoint = (next, .ok ()) →
        CheckpointStore.load next checkpoint.key = .ok (some checkpoint)

instance : LawfulStore (MemoryStore α) α where
  Mirrors store map := store = map ∧ map.Keyed
  Storable _ := True
  Apart _ _ := True
  keyed := fun ⟨_, keyed⟩ => keyed
  apart _ _ _ _ _ := trivial
  load_eq := by
    rintro store _ ⟨rfl, -⟩ key
    rfl
  list_perm := by
    rintro store _ ⟨rfl, -⟩
    exact ⟨store.infos, rfl, .refl _⟩
  save_eq := by
    rintro store _ checkpoint ⟨rfl, keyed⟩ - -
    exact ⟨_, rfl, rfl, keyed.save checkpoint⟩
  delete_eq := by
    rintro store _ key ⟨rfl, keyed⟩ -
    exact ⟨_, rfl, rfl, keyed.erase key⟩
  load_of_saved := by
    rintro store _ checkpoint - ⟨⟩
    exact congrArg Except.ok (SortedMap.find?_insert_self _ _ _)

end UsageForecast
