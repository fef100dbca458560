import UsageForecast.Proofs.SeparateFiles

/-!
# Stores that keep keys apart

Calls on keys that do not share a place in a store do not notice each other:
a save or a deletion leaves what is loaded for other keys as it is, and saves
can be carried out in either order.  This asks nothing of what the store
holds, and holds of calls that fail as well.
-/

namespace UsageForecast

/-- Saves under different keys can be carried out in either order. -/
theorem SortedMap.insert_comm {κ ν : Type} [Ord κ] [Std.TransOrd κ]
    [Std.LawfulEqOrd κ] (map : SortedMap κ ν) {first second : κ}
    (different : first ≠ second) (value other : ν) :
    (map.insert first value).insert second other =
      (map.insert second other).insert first value := by
  classical
  refine eq_of_find?_eq fun key => ?_
  simp only [find?_insert]
  by_cases same : key = first
  · simp [same, different]
  · simp [same]

/-- A store in which calls on different keys do not notice each other. -/
class SeparateStore (σ α : Type) [CheckpointStore σ α] extends
    LawfulStore σ α where
  load_save {store : σ} {checkpoint : Checkpoint α} {key : ProfileKey} :
    Apart checkpoint.key key → checkpoint.key ≠ key →
      CheckpointStore.load (α := α)
          (CheckpointStore.save store checkpoint).1 key =
        CheckpointStore.load store key
  load_delete {store : σ} {key other : ProfileKey} :
    Apart key other → key ≠ other →
      CheckpointStore.load (α := α)
          (CheckpointStore.delete α store key).1 other =
        CheckpointStore.load store other
  /-- The second of two saves has the same outcome as without the first. -/
  save_comm (store : σ) {first second : Checkpoint α} :
    Apart first.key second.key → first.key ≠ second.key →
      (CheckpointStore.save (CheckpointStore.save store first).1 second).1 =
          (CheckpointStore.save
            (CheckpointStore.save store second).1 first).1 ∧
        (CheckpointStore.save (CheckpointStore.save store first).1 second).2 =
          (CheckpointStore.save store second).2

instance {α : Type} : SeparateStore (MemoryStore α) α where
  load_save _ different :=
    congrArg Except.ok
      (SortedMap.find?_insert_of_ne _ _ (Ne.symm different))
  load_delete _ different :=
    congrArg Except.ok
      ((SortedMap.find?_erase _ _ _).trans (if_neg (Ne.symm different)))
  save_comm _ _ _ _ different :=
    ⟨SortedMap.insert_comm _ different _ _, rfl⟩

namespace Directory

theorem failure_eq [Checkpoint.Diagnosis] {left right : Directory}
    (same : left.path = right.path) : left.failure = right.failure := by
  funext fault
  simp only [failure, quotedPath, same]

theorem stem_ne {key other : ProfileKey}
    (apart : stem key = stem other → key = other)
    (different : key ≠ other) : stem key ≠ stem other :=
  fun same => different (apart same)

variable {α : Type} [Scalar α] [Checkpoint.Diagnosis]

theorem load_eq_of_spares {names : String → Prop}
    {directory next : Directory} (spares : Spares names directory next)
    {key : ProfileKey} (named : names (fileName (stem key))) :
    CheckpointStore.load (α := α) next key =
      CheckpointStore.load directory key := by
  change (next.load key).mapError next.failure =
    (directory.load key).mapError directory.failure
  rw [spares.load_eq named, failure_eq spares.path]

instance : SeparateStore Directory α where
  load_save {directory checkpoint key} apart different :=
    load_eq_of_spares (spares_save directory checkpoint) fun owned =>
      stem_ne apart different (owned.stem_eq (.inl rfl))
  load_delete {directory key other} apart different :=
    load_eq_of_spares (spares_delete directory key) fun same =>
      stem_ne apart different (fileName_injective same).symm
  save_comm directory first second apart different := by
    obtain ⟨final, outcome⟩ := Directory.save_comm (α := α)
      (stem_ne apart different)
    refine ⟨final, ?_⟩
    change Except.mapError (directory.save first).1.failure _ =
      Except.mapError directory.failure _
    rw [failure_eq (spares_save directory first).path]
    exact congrArg _ outcome

end Directory

end UsageForecast
