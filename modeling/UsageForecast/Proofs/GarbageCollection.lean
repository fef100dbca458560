import UsageForecast.Proofs.StoreLaws
import UsageForecast.Manager.Round
import UsageForecast.Scalar.Binary

/-!
# Garbage collection

A collection that completes deletes exactly the checkpoints of unregistered
profiles that were saved when the grace period began, or before.  It does not
complete if the period began before the calendar does, and a period that is
too long to be a period at all counts as none.
-/

namespace UsageForecast

theorem Instant.compare_eq_gt_iff {left right : Instant} :
    compare left right = .gt ↔
      right.seconds < left.seconds ∨ left.seconds = right.seconds ∧
        right.nanoseconds < left.nanoseconds := by
  change (compare left.seconds right.seconds).then
    (compare left.nanoseconds right.nanoseconds) = .gt ↔ _
  rw [Ordering.then_eq_gt, Int.compare_eq_gt, Int.compare_eq_eq,
    Nat.compare_eq_gt]

namespace Manager

variable {σ α : Type}

/-- When a period of some seconds began. -/
def periodStart (now : Instant) (period : Nat) : Instant :=
  ⟨now.seconds - period, now.nanoseconds⟩

/-- Whether a checkpoint outlasts a collection: its profile is registered or
it was saved after the period began. -/
def spares (manager : Manager α) (now : Instant) (period : Nat)
    (info : Checkpoint.Info) : Bool :=
  manager.isRegistered info.key
    || compare info.savedAt (periodStart now period) == .gt

/-- What a collection leaves of the checkpoints of a store. -/
def spared (manager : Manager α) (now : Instant) (period : Nat)
    (map : MemoryStore α) : MemoryStore α :=
  map.filter fun _ checkpoint => manager.spares now period checkpoint.info

theorem isGarbage_eq (manager : Manager α) (now : Instant) (period : Nat)
    (info : Checkpoint.Info) :
    manager.isGarbage (periodStart now period) info =
      !manager.spares now period info := by
  rw [isGarbage, spares, Bool.not_or]
  rfl

/-- A longer period spares more. -/
theorem spares_of_le {manager : Manager α} {now : Instant}
    {shorter longer : Nat} (le : shorter ≤ longer)
    {info : Checkpoint.Info}
    (spared : manager.spares now shorter info = true) :
    manager.spares now longer info = true := by
  simp only [spares, Bool.or_eq_true, beq_iff_eq, Instant.compare_eq_gt_iff,
    periodStart] at spared ⊢
  refine spared.imp_right fun recent => ?_
  omega

theorem find?_spared (manager : Manager α) (now : Instant) (period : Nat)
    (map : MemoryStore α) (key : ProfileKey) :
    SortedMap.find? (manager.spared now period map) key =
      (map.find? key).filter fun checkpoint =>
        manager.spares now period checkpoint.info :=
  SortedMap.find?_filter _ _ _

theorem size_spared (manager : Manager α) (now : Instant) (period : Nat)
    (map : MemoryStore α) :
    (map.infos.filter
        (manager.isGarbage (periodStart now period))).length
      + (manager.spared now period map).size = map.size := by
  have kept : (manager.spared now period map).size =
      (map.infos.filter (manager.spares now period)).length := by
    rw [MemoryStore.infos, SortedMap.values, List.map_map,
      List.filter_map, List.length_map]
    rfl
  have all : map.infos.length = map.size := by
    rw [MemoryStore.infos, SortedMap.values, List.map_map, List.length_map]
    rfl
  have split := List.length_eq_length_filter_add
    (l := map.infos) (manager.spares now period)
  rw [funext (manager.isGarbage_eq now period), kept, ← all, split]
  omega

theorem fst_deleteOne [CheckpointStore σ α] (store : σ) (count : Nat)
    (info : Checkpoint.Info) :
    (deleteOne (α := α) (store, count) info).1 =
      (CheckpointStore.delete α store info.key).1 := by
  unfold deleteOne
  dsimp only
  rcases CheckpointStore.delete α store info.key with ⟨next, outcome⟩
  rcases outcome with failure | existed
  · rfl
  · cases existed <;> rfl

section

variable [CheckpointStore σ α] [LawfulStore σ α]
  {store : σ} {map : MemoryStore α}

theorem deleteOne_of_held (mirrors : LawfulStore.Mirrors store map)
    {info : Checkpoint.Info} (held : info.key ∈ map.keys) (count : Nat) :
    ∃ next, deleteOne (α := α) (store, count) info = (next, count + 1) ∧
      LawfulStore.Mirrors next (SortedMap.erase map info.key) := by
  obtain ⟨next, deleted, continued⟩ := LawfulStore.delete_eq mirrors
    (LawfulStore.apart mirrors info.key held)
  have contained : map.contains info.key = true :=
    SortedMap.mem_keys_iff.1 held
  rw [contained] at deleted
  exact ⟨next, by rw [deleteOne, deleted], continued⟩

/-- Deleting listed checkpoints one by one counts each of them. -/
theorem foldl_deleteOne (mirrors : LawfulStore.Mirrors store map)
    {infos : List Checkpoint.Info}
    (held : ∀ info ∈ infos, info.key ∈ map.keys)
    (distinct : (infos.map Checkpoint.Info.key).Nodup) (count : Nat) :
    ∃ next, infos.foldl (deleteOne (α := α)) (store, count) =
        (next, count + infos.length) ∧
      LawfulStore.Mirrors next (SortedMap.filter map fun key _ =>
        !(infos.map Checkpoint.Info.key).contains key) := by
  induction infos generalizing store map count with
  | nil =>
      refine ⟨store, rfl, ?_⟩
      convert mirrors using 1
      refine SortedMap.eq_of_find?_eq fun key => ?_
      rw [SortedMap.find?_filter]
      cases map.find? key <;> rfl
  | cons info infos induction =>
      obtain ⟨first, others⟩ := List.forall_mem_cons.1 held
      obtain ⟨fresh, distinct⟩ := List.nodup_cons.1 distinct
      obtain ⟨between, deleted, continued⟩ :=
        deleteOne_of_held mirrors first count
      obtain ⟨next, rest, final⟩ := induction continued (fun other member =>
        SortedMap.mem_keys_erase_iff.2
          ⟨ne_of_mem_of_not_mem (List.mem_map_of_mem member) fresh,
            others other member⟩) distinct (count + 1)
      refine ⟨next, ?_, ?_⟩
      · rw [List.foldl_cons, deleted, rest, List.length_cons]
        congr 1
        omega
      · convert final using 1
        refine SortedMap.eq_of_find?_eq fun key => ?_
        rw [SortedMap.find?_filter, SortedMap.find?_filter,
          SortedMap.find?_erase]
        by_cases same : key = info.key
        · cases map.find? key <;> simp [same]
        · simp [same]

theorem before?_eq (now : Instant) (period : Nat) :
    now.before? period =
      if (periodStart now period).isShowable then
        some (periodStart now period)
      else none := rfl

variable (manager : Manager α) (now : Instant)

/-- Deleting the garbage of a listing leaves what is spared. -/
theorem delete_garbage (mirrors : LawfulStore.Mirrors store map)
    {infos : List Checkpoint.Info} (listed : infos.Perm map.infos)
    (period : Nat) :
    let garbage := infos.filter
      (manager.isGarbage (periodStart now period))
    ∃ next, garbage.foldl (deleteOne (α := α)) (store, 0) =
        (next, garbage.length) ∧
      LawfulStore.Mirrors next (manager.spared now period map) ∧
        garbage.length + (manager.spared now period map).size =
          map.size := by
  intro garbage
  have keyed := LawfulStore.keyed mirrors
  have keys : (infos.map Checkpoint.Info.key).Perm map.keys := by
    rw [← keyed.map_key_infos]
    exact listed.map _
  have held : ∀ info ∈ garbage, info.key ∈ map.keys := fun info member =>
    keys.subset (List.mem_map_of_mem (List.mem_of_mem_filter member))
  have distinct : (garbage.map Checkpoint.Info.key).Nodup :=
    (keys.nodup_iff.2 map.keys_nodup).sublist (List.filter_sublist.map _)
  have deleted_iff {key : ProfileKey} {checkpoint : Checkpoint α}
      (found : map.find? key = some checkpoint) :
      key ∈ garbage.map Checkpoint.Info.key ↔
        manager.spares now period checkpoint.info = false := by
    have named : checkpoint.key = key := keyed key checkpoint found
    rw [← Bool.not_eq_true', ← isGarbage_eq]
    constructor
    · intro member
      obtain ⟨info, among, rfl⟩ := List.mem_map.1 member
      obtain ⟨within, dropped⟩ := List.mem_filter.1 among
      obtain ⟨other, known, rfl⟩ :=
        keyed.mem_infos_iff.1 (listed.subset within)
      rw [found] at known
      cases known
      exact dropped
    · intro dropped
      have told : checkpoint.info ∈ map.infos :=
        MemoryStore.mem_infos_iff.2 ⟨key, checkpoint, found, rfl⟩
      exact List.mem_map.2 ⟨checkpoint.info,
        List.mem_filter.2 ⟨listed.symm.subset told, dropped⟩, named⟩
  obtain ⟨next, deleted, continued⟩ :=
    foldl_deleteOne mirrors held distinct 0
  refine ⟨next, by rw [deleted, Nat.zero_add], ?_, ?_⟩
  · convert continued using 1
    refine SortedMap.eq_of_find?_eq fun key => ?_
    rw [find?_spared, SortedMap.find?_filter]
    cases found : map.find? key with
    | none => rfl
    | some checkpoint =>
        have iff := deleted_iff found
        cases spared : manager.spares now period checkpoint.info <;>
          simp_all [Option.filter]
  · rw [← manager.size_spared now period map]
    congr 1
    exact (listed.filter _).length_eq

/-- A collection is stopped before the calendar, or else leaves what is
spared. -/
theorem collectGarbage_eq (mirrors : LawfulStore.Mirrors store map)
    (grace : Nat) :
    let period := Instant.effectivePeriod grace
    let left := manager.spared now period map
    ∃ next count,
      manager.collectGarbage now grace store =
          (if (periodStart now period).isShowable then .ok (next, count)
          else .error .dateRange) ∧
        LawfulStore.Mirrors next left ∧ count + left.size = map.size := by
  intro period left
  obtain ⟨infos, listed, same⟩ := LawfulStore.list_perm mirrors
  obtain ⟨next, deleted, continued, counted⟩ :=
    delete_garbage manager now mirrors same period
  refine ⟨next, _, ?_, continued, counted⟩
  have cutoff : now.before? (Instant.effectivePeriod grace) =
      if (periodStart now period).isShowable then
        some (periodStart now period)
      else none := before?_eq now period
  simp only [collectGarbage, listed, cutoff]
  by_cases inside : (periodStart now period).isShowable
  · simp only [if_pos inside]
    rw [deleted]
  · simp only [if_neg inside]

/-- A collection whose period began within the calendar deletes exactly the
checkpoints of unregistered profiles that were not saved after that, and
counts them; any other one does not complete.  Longer periods spare more, up
to the longest one; beyond it there is no period. -/
theorem collectGarbage_spares
    (mirrors : LawfulStore.Mirrors store map) (grace : Nat) :
    let period := Instant.effectivePeriod grace
    let left := manager.spared now period map
    ((periodStart now period).isShowable = false →
      manager.collectGarbage now grace store = .error .dateRange) ∧
    ((periodStart now period).isShowable = true →
      ∃ next count,
        manager.collectGarbage now grace store = .ok (next, count) ∧
          LawfulStore.Mirrors next left ∧
          (∀ key, CheckpointStore.load next key = .ok (left.find? key)) ∧
          count + left.size = map.size) ∧
    (grace ≤ Instant.longestPeriod → period = grace) ∧
    (Instant.longestPeriod < grace → period = 0) ∧
    ∀ longer, period ≤ Instant.effectivePeriod longer →
      ∀ key checkpoint, left.find? key = some checkpoint →
        (manager.spared now (Instant.effectivePeriod longer) map).find?
          key = some checkpoint := by
  intro period left
  obtain ⟨next, count, collected, continued, counted⟩ :=
    collectGarbage_eq manager now mirrors grace
  refine ⟨fun outside => ?_, fun inside => ?_, fun short => if_pos short,
    fun long => if_neg (Nat.not_le.2 long), ?_⟩
  · rw [collected, if_neg (ne_true_of_eq_false outside)]
  · refine ⟨next, count, ?_, continued, LawfulStore.load_eq continued,
      counted⟩
    rw [collected, if_pos inside]
  · intro longer le key checkpoint kept
    rw [find?_spared, Option.filter_eq_some_iff] at kept ⊢
    exact ⟨kept.1, spares_of_le le kept.2⟩

end

def orphanKey : ProfileKey :=
  ⟨.workload ⟨"Deployment", "web", "default", none⟩, [.metricsApi],
    [.distribution], .pod⟩

/-- A checkpoint that nothing is registered for. -/
def orphan : Checkpoint Float := ⟨orphanKey, ⟨1577836800, 0⟩, ∅⟩

def orphans : MemoryStore Float := MemoryStore.save ∅ orphan

def beginning : Manager Float := .initial

def now : Instant := ⟨1700000000, 0⟩

/-- Neither of two periods keeps a checkpoint that was saved within it: one
began before the calendar, and the other is too long to be a period. -/
theorem orphan_not_kept :
    let removed (grace : Nat) := (beginning.collectGarbage now grace
      orphans).map fun (next, count) => (next.keys, count)
    beginning.spares now 10000000000000 orphan.info = true ∧
      removed 10000000000000 = .error .dateRange ∧
      beginning.spares now 18446744073709551615 orphan.info = true ∧
      removed 18446744073709551615 = .ok ([], 1) := by
  refine ⟨by decide +kernel, by rfl, by decide +kernel, by rfl⟩

/-- After five years the checkpoint of an unregistered profile is still
there. -/
theorem orphan_kept_for_five_years :
    LawfulStore.Mirrors orphans orphans ∧
      ∃ next count,
        beginning.collectGarbage now 157680000 orphans =
            .ok (next, count) ∧
          CheckpointStore.load next orphanKey = .ok (some orphan) ∧
          count = 0 := by
  have mirrors : LawfulStore.Mirrors orphans orphans :=
    ⟨rfl, MemoryStore.keyed_empty.save orphan⟩
  obtain ⟨-, completes, -⟩ :=
    collectGarbage_spares beginning now mirrors 157680000
  obtain ⟨next, count, collected, -, loads, counted⟩ :=
    completes (by decide)
  refine ⟨mirrors, next, count, collected, ?_, ?_⟩
  · rw [loads]
    rfl
  · change count + 1 = 1 at counted
    omega

end Manager

end UsageForecast
