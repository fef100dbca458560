import Mathlib.Data.List.Pairwise
import UsageForecast.Proofs.CheckpointFile
import UsageForecast.Proofs.GarbageCollection
import UsageForecast.Proofs.SeparateFiles

/-!
# What listings tell of loads

A listing goes by what the files hold, loads and deletions go by their names.
The two agree as long as every file that tells of a key is the one that a
load of the key reads.  A stray file, such as a copy under another name, is
listed all the same, and a collection that takes it for garbage deletes the
checkpoint of its key instead.
-/

namespace UsageForecast.Directory

variable {α : Type} [Scalar α] {directory : Directory}

variable (α) in
/-- A file tells of a key although a load of the key reads another file. -/
structure Stray (directory : Directory) (name : String)
    (info : Checkpoint.Info) : Prop where
  told : directory.fileInfo? α name = some info
  misplaced : name ≠ fileName (stem info.key)

variable (α) in
/-- A listing tells of no key twice, and only of what can be loaded. -/
structure Faithful (directory : Directory) (infos : List Checkpoint.Info) :
    Prop where
  distinct : (infos.map Checkpoint.Info.key).Nodup
  loaded : ∀ info ∈ infos, ∃ checkpoint : Checkpoint α,
    directory.load info.key = .ok (some checkpoint) ∧
      checkpoint.info = info

/-- The digest of a key makes the name of its file long. -/
theorem ne_fileName_of_short {name : String} (short : name.length < 13)
    {key : ProfileKey} : name ≠ fileName (stem key) := by
  rintro rfl
  have letters : (fileName (stem key)).length = (stem key).length + 5 := by
    rw [← String.length_toList, fileName_toList, List.length_append,
      String.length_toList]
    rfl
  have digits : 8 ≤ (stem key).length := Digest.le_length_hexadecimal _
  omega

section Reading

variable {name : String} {info : Checkpoint.Info} {key : ProfileKey}
  {checkpoint : Checkpoint α}

theorem fileInfo?_eq_some_iff :
    directory.fileInfo? α name = some info ↔
      extension? name = some "json" ∧ ∃ checkpoint : Checkpoint α,
        directory.readFile name = .ok (some checkpoint) ∧
          checkpoint.info = info := by
  unfold fileInfo?
  split
  next extended =>
    cases read : directory.readFile (α := α) name with
    | error fault => simp
    | ok found => cases found <;> simp [extended]
  next other => simp [other]

theorem load_eq_some_iff :
    directory.load key = .ok (some checkpoint) ↔
      directory.readFile (fileName (stem key)) = .ok (some checkpoint) ∧
        checkpoint.key = key := by
  unfold load
  cases read : directory.readFile (α := α) (fileName (stem key)) with
  | error fault => simp
  | ok found =>
      cases found with
      | none => simp
      | some held =>
          by_cases named : held.key = key
          · simp only [named, if_true]
            constructor
            · rintro ⟨⟩
              exact ⟨rfl, named⟩
            · exact fun both => both.1
          · simp only [named, if_false]
            constructor
            · nofun
            · rintro ⟨⟨⟩, same⟩
              exact absurd same named

theorem file_of_read
    (read : directory.readFile name = .ok (some checkpoint)) :
    directory.reachable = true ∧ ∃ text,
      directory.nodes.find? name = some (.file text) := by
  unfold readFile at read
  split at read
  next reachable =>
    refine ⟨reachable, ?_⟩
    split at read
    · cases read
    · cases read
    next text held => exact ⟨text, held⟩
  next => cases read

theorem told_of_loaded
    (loaded : directory.load key = .ok (some checkpoint)) :
    directory.fileInfo? α (fileName (stem key)) = some checkpoint.info :=
  fileInfo?_eq_some_iff.2
    ⟨extension?_fileName key, checkpoint, (load_eq_some_iff.1 loaded).1, rfl⟩

/-- The file that a load of a key reads tells of the key iff it is loaded. -/
theorem loaded_of_told
    (told : directory.fileInfo? α (fileName (stem info.key)) = some info) :
    ∃ checkpoint : Checkpoint α,
      directory.load info.key = .ok (some checkpoint) ∧
        checkpoint.info = info := by
  obtain ⟨-, checkpoint, read, same⟩ := fileInfo?_eq_some_iff.1 told
  exact ⟨checkpoint, load_eq_some_iff.2
    ⟨read, congrArg Checkpoint.Info.key same⟩, same⟩

theorem mem_names_of_told (told : directory.fileInfo? α name = some info) :
    name ∈ directory.names := by
  obtain ⟨-, checkpoint, read, -⟩ := fileInfo?_eq_some_iff.1 told
  obtain ⟨-, text, held⟩ := file_of_read read
  exact SortedMap.mem_keys_of_find? held

end Reading

section Listing

variable {infos : List Checkpoint.Info}

theorem mem_of_list (listed : directory.list α = .ok infos)
    {info : Checkpoint.Info} :
    info ∈ infos ↔
      ∃ name, directory.fileInfo? α name = some info := by
  unfold list at listed
  split at listed
  next =>
    cases listed
    rw [List.mem_filterMap]
    exact ⟨fun ⟨name, _, told⟩ => ⟨name, told⟩,
      fun ⟨name, told⟩ => ⟨name, mem_names_of_told told, told⟩⟩
  next => cases listed

/-- No key is listed twice iff no two files tell of one key. -/
theorem nodup_list_iff (listed : directory.list α = .ok infos) :
    (infos.map Checkpoint.Info.key).Nodup ↔
      ∀ name other info another,
        directory.fileInfo? α name = some info →
          directory.fileInfo? α other = some another →
            info.key = another.key → name = other := by
  unfold list at listed
  split at listed
  next =>
    cases listed
    simp only [List.Nodup, List.pairwise_map, List.pairwise_filterMap]
    constructor
    · intro distinct name other info another told tells same
      by_contra different
      have symmetric : Std.Symm fun left right : String =>
          ∀ first, directory.fileInfo? α left = some first →
            ∀ second, directory.fileInfo? α right = some second →
              first.key ≠ second.key :=
        ⟨fun _ _ apart first found second known =>
          (apart second known first found).symm⟩
      exact distinct.forall (mem_names_of_told told)
        (mem_names_of_told tells) different info told another tells same
    · intro single
      refine directory.nodes.keys_nodup.imp ?_
      intro name other different info told another tells same
      exact different (single name other info another told tells same)
  next => cases listed

/-- A listing is faithful iff there are no stray files. -/
theorem faithful_iff_no_stray (listed : directory.list α = .ok infos) :
    directory.Faithful α infos ↔
      ∀ name info, ¬ directory.Stray α name info := by
  constructor
  · rintro ⟨distinct, loaded⟩ name info ⟨told, misplaced⟩
    obtain ⟨checkpoint, found, same⟩ :=
      loaded info ((mem_of_list listed).2 ⟨name, told⟩)
    have own := told_of_loaded found
    rw [same] at own
    exact misplaced
      ((nodup_list_iff listed).1 distinct _ _ _ _ told own rfl)
  · intro none
    have placed {name : String} {info : Checkpoint.Info}
        (told : directory.fileInfo? α name = some info) :
        name = fileName (stem info.key) := by
      by_contra misplaced
      exact none name info ⟨told, misplaced⟩
    constructor
    · rw [nodup_list_iff listed]
      intro name other info another told tells same
      rw [placed told, placed tells, same]
    · intro info member
      obtain ⟨name, told⟩ := (mem_of_list listed).1 member
      rw [placed told] at told
      exact loaded_of_told told

end Listing

section Collections

variable {key other : ProfileKey} {checkpoint : Checkpoint α}

theorem load_of_absent (reachable : directory.reachable = true)
    (absent : directory.nodes.find? (fileName (stem key)) = none) :
    directory.load (α := α) key = .ok none := by
  simp only [load, readFile, reachable, if_true, absent]

theorem clear_of_loaded {held : Option (Checkpoint α)}
    (loaded : directory.load key = .ok held) :
    directory.reachable = true ∧
      directory.nodes.find? (fileName (stem key)) ≠ some .folder := by
  unfold load readFile at loaded
  cases reachable : directory.reachable with
  | false => simp [reachable] at loaded
  | true =>
      refine ⟨rfl, fun folder => ?_⟩
      simp [reachable, folder] at loaded

/-- A deletion deletes whatever file there is under the stem of its key. -/
theorem load_delete_of_eq {held : Option (Checkpoint α)}
    (loaded : directory.load key = .ok held)
    (same : stem other = stem key) :
    (directory.delete other).1.load (α := α) key = .ok none := by
  obtain ⟨reachable, clear⟩ := clear_of_loaded loaded
  unfold delete
  rw [same, if_pos reachable]
  cases found : directory.nodes.find? (fileName (stem key)) with
  | none => exact load_of_absent reachable found
  | some node =>
      cases node with
      | folder => exact absurd found clear
      | file text =>
          exact load_of_absent rfl
            ((SortedMap.find?_erase _ _ _).trans (if_pos rfl))

theorem list_of_loaded
    (loaded : directory.load key = .ok (some checkpoint)) :
    ∃ infos, directory.list α = .ok infos :=
  ⟨_, if_pos (file_of_read (load_eq_some_iff.1 loaded).1).1⟩

variable [Checkpoint.Diagnosis]

/-- Deletions take a checkpoint away iff one of them is for its stem. -/
theorem load_foldl_deleteOne {held : Option (Checkpoint α)}
    (loaded : directory.load key = .ok held) (infos : List Checkpoint.Info)
    (count : Nat) :
    (infos.foldl (Manager.deleteOne (α := α)) (directory, count)).1.load
        key =
      .ok (if ∃ info ∈ infos, stem info.key = stem key then none
        else held) := by
  induction infos generalizing directory count held with
  | nil => simpa using loaded
  | cons info infos induction =>
      rw [List.foldl_cons]
      rcases deleted :
        Manager.deleteOne (α := α) (directory, count) info with
          ⟨next, counted⟩
      have left : next = (directory.delete info.key).1 :=
        (congrArg Prod.fst deleted).symm.trans
          (Manager.fst_deleteOne directory count info)
      by_cases same : stem info.key = stem key
      · rw [induction (left ▸ load_delete_of_eq loaded same)]
        simp [same]
      · rw [induction (left ▸ (load_delete_of_ne same).trans loaded)]
        simp [same]

variable (manager : Manager α) (now : Instant) (grace : Nat)

theorem collectGarbage_of_list {infos : List Checkpoint.Info}
    (listed : directory.list α = .ok infos) :
    let period := Instant.effectivePeriod grace
    manager.collectGarbage now grace directory =
      if (Manager.periodStart now period).isShowable then
        .ok ((infos.filter fun info =>
          !manager.spares now period info).foldl
            (Manager.deleteOne (α := α)) (directory, 0))
      else .error .dateRange := by
  intro period
  have answered : CheckpointStore.list α directory = .ok infos :=
    congrArg (Except.mapError directory.failure) listed
  simp only [Manager.collectGarbage, answered, Manager.before?_eq]
  by_cases inside :
      (Manager.periodStart now (Instant.effectivePeriod grace)).isShowable
  · simp only [if_pos inside, period]
    rw [funext (manager.isGarbage_eq now _)]
  · simp only [if_neg inside, period]

theorem collects_of_list {infos : List Checkpoint.Info}
    (listed : directory.list α = .ok infos)
    (inside : (Manager.periodStart now
      (Instant.effectivePeriod grace)).isShowable = true) :
    ∃ next count,
      manager.collectGarbage now grace directory = .ok (next, count) :=
  ⟨_, _, (collectGarbage_of_list manager now grace listed).trans
    (if_pos inside)⟩

/-- A collection deletes whatever is under the stem of a key that it lists
as garbage. -/
theorem load_of_collected {infos : List Checkpoint.Info}
    (listed : directory.list α = .ok infos)
    {held : Option (Checkpoint α)} (loaded : directory.load key = .ok held)
    {next : Directory} {count : Nat}
    (collected : manager.collectGarbage now grace directory =
      .ok (next, count)) :
    next.load key =
      .ok (if ∃ info ∈ infos.filter fun info =>
          !manager.spares now (Instant.effectivePeriod grace) info,
        stem info.key = stem key then none else held) := by
  rw [collectGarbage_of_list manager now grace listed] at collected
  split at collected
  next =>
    have left := congrArg Prod.fst (Except.ok.inj collected)
    dsimp only at left
    rw [← left, load_foldl_deleteOne loaded]
  next => cases collected

/-- A collection takes away a checkpoint that it spares iff a stray file of
the same stem counts as garbage. -/
theorem kept_iff (loaded : directory.load key = .ok (some checkpoint))
    (spared : manager.spares now (Instant.effectivePeriod grace)
      checkpoint.info = true) {next : Directory} {count : Nat}
    (collected : manager.collectGarbage now grace directory =
      .ok (next, count)) :
    next.load key = .ok (some checkpoint) ↔
      ∀ name info, directory.Stray α name info →
        stem info.key = stem key →
          manager.spares now (Instant.effectivePeriod grace) info =
            true := by
  obtain ⟨infos, listed⟩ := list_of_loaded loaded
  have own := told_of_loaded loaded
  rw [load_of_collected manager now grace listed loaded collected]
  constructor
  · intro kept name info stray same
    by_contra garbage
    rw [if_pos ⟨info, List.mem_filter.2
      ⟨(mem_of_list listed).2 ⟨name, stray.told⟩, by simpa using garbage⟩,
        same⟩] at kept
    cases kept
  · intro sparing
    refine congrArg Except.ok (if_neg ?_)
    rintro ⟨info, member, same⟩
    obtain ⟨tells, garbage⟩ := List.mem_filter.1 member
    obtain ⟨name, told⟩ := (mem_of_list listed).1 tells
    by_cases misplaced : name = fileName (stem info.key)
    · rw [misplaced, same, own] at told
      rw [← Option.some.inj told, spared] at garbage
      cases garbage
    · rw [sparing name info ⟨told, misplaced⟩ same] at garbage
      cases garbage

end Collections

section Histories

theorem fileInfo?_of_sameFiles {left right : Directory}
    (same : left.SameFiles right) (name : String) :
    left.fileInfo? α name = right.fileInfo? α name :=
  fileInfo?_congr fun extended =>
    readFile_congr same.reachable (same.file name extended)

theorem Spares.fileInfo?_eq {names : String → Prop} {next : Directory}
    (spares : Spares names directory next) {name : String}
    (named : names name) :
    next.fileInfo? α name = directory.fileInfo? α name :=
  fileInfo?_congr fun _ =>
    readFile_congr spares.reachable (spares.node name named)

/-- A save changes what no file but its own tells. -/
theorem told_after_save {checkpoint : Checkpoint α}
    (legible : checkpoint.Legible) {name : String} {info : Checkpoint.Info}
    (told : (directory.save checkpoint).1.fileInfo? α name = some info) :
    directory.fileInfo? α name = some info ∨
      name = fileName (stem checkpoint.key) ∧ info = checkpoint.info := by
  cases saved : directory.save checkpoint with
  | mk next outcome =>
      rw [saved] at told
      cases outcome with
      | error fault =>
          have same := sameFiles_of_failed (congrArg Prod.snd saved)
          rw [saved] at same
          exact .inl ((fileInfo?_of_sameFiles same name).symm.trans told)
      | ok _ =>
          have extended := (fileInfo?_eq_some_iff.1 told).1
          by_cases own : name = fileName (stem checkpoint.key)
          · have loaded :=
              ((contains_of_saved saved).returns legible).loaded
            rw [own, told_of_loaded loaded] at told
            exact .inr ⟨own, (Option.some.inj told).symm⟩
          · have outside : ¬ Owns (stem checkpoint.key) name := by
              rintro (same | same)
              · exact own same
              · exact ne_temporaryName extended same
            have spares := spares_save directory checkpoint
            rw [saved] at spares
            exact .inl ((spares.fileInfo?_eq outside).symm.trans told)

theorem told_after_delete {key : ProfileKey} {name : String}
    {info : Checkpoint.Info}
    (told : (directory.delete key).1.fileInfo? α name = some info) :
    directory.fileInfo? α name = some info := by
  by_cases own : name = fileName (stem key)
  · obtain ⟨-, checkpoint, read, -⟩ := fileInfo?_eq_some_iff.1 told
    obtain ⟨-, text, held⟩ := file_of_read read
    -- The file is still there, so nothing has been deleted.
    have unchanged : (directory.delete key).1 = directory := by
      unfold delete at held ⊢
      dsimp only at held ⊢
      split
      · split
        · rfl
        · rfl
        next reachable _ _ found =>
          rw [if_pos reachable] at held
          simp only [found] at held
          rw [own] at held
          have erased := SortedMap.find?_erase directory.nodes
            (fileName (stem key)) (fileName (stem key))
          rw [if_pos rfl] at erased
          cases erased.symm.trans held
      · rfl
    rwa [unchanged] at told
  · rwa [(spares_delete directory key).fileInfo?_eq own] at told

/-- What a store does to a directory makes no stray file. -/
theorem Stray.of_handle {event : Event α}
    (legible : ∀ checkpoint progress, event = .save checkpoint progress →
      checkpoint.Legible) {name : String} {info : Checkpoint.Info}
    (stray : (directory.handle event).Stray α name info) :
    directory.Stray α name info := by
  refine ⟨?_, stray.misplaced⟩
  have told := stray.told
  cases completes : event.completes with
  | false =>
      have same := sameFiles_of_interrupted completes directory
      rwa [fileInfo?_of_sameFiles same] at told
  | true =>
      cases event with
      | save checkpoint progress =>
          rw [handle_of_completes completes] at told
          rcases told_after_save (legible _ _ rfl) told with
            before | ⟨own, rfl⟩
          · exact before
          · exact absurd own stray.misplaced
      | delete key => exact told_after_delete told

theorem Stray.of_handleAll {events : List (Event α)}
    (legible : ∀ checkpoint progress,
      .save checkpoint progress ∈ events → checkpoint.Legible)
    {name : String} {info : Checkpoint.Info}
    (stray : (directory.handleAll events).Stray α name info) :
    directory.Stray α name info := by
  induction events generalizing directory with
  | nil => exact stray
  | cons event events induction =>
      have later : (directory.handle event).Stray α name info :=
        induction (fun checkpoint progress member =>
          legible checkpoint progress (List.mem_cons_of_mem _ member)) stray
      refine later.of_handle fun checkpoint progress same => ?_
      exact legible checkpoint progress (same ▸ List.mem_cons_self)

end Histories

/-- A listing tells of every checkpoint that can be loaded; it tells of
nothing else and of no key twice iff there is no stray file.  A collection
takes away a checkpoint that is registered or young enough iff a stray file of
its stem counts as garbage.  A store makes no stray files itself. -/
theorem listing_faithful_iff [Checkpoint.Diagnosis] (directory : Directory)
    (manager : Manager α) (now : Instant) (grace : Nat) :
    let period := Instant.effectivePeriod grace
    (∀ infos, directory.list α = .ok infos →
      (directory.Faithful α infos ↔
        ∀ name info, ¬ directory.Stray α name info) ∧
      ∀ key checkpoint, directory.load (α := α) key = .ok (some checkpoint) →
        checkpoint.info ∈ infos) ∧
    (∀ key checkpoint, directory.load (α := α) key = .ok (some checkpoint) →
      manager.spares now period checkpoint.info = true →
        ((Manager.periodStart now period).isShowable = true →
          ∃ next count, manager.collectGarbage now grace directory =
            .ok (next, count)) ∧
        ∀ next count, manager.collectGarbage now grace directory =
            .ok (next, count) →
          (next.load key = .ok (some checkpoint) ↔
            ∀ name info, directory.Stray α name info →
              stem info.key = stem key →
                manager.spares now period info = true)) ∧
    ∀ events : List (Event α),
      (∀ checkpoint progress, .save checkpoint progress ∈ events →
        checkpoint.Legible) →
      ∀ name info, (directory.handleAll events).Stray α name info →
        directory.Stray α name info := by
  intro period
  refine ⟨?_, ?_, ?_⟩
  · intro infos listed
    refine ⟨faithful_iff_no_stray listed, fun key checkpoint loaded => ?_⟩
    exact (mem_of_list listed).2 ⟨_, told_of_loaded loaded⟩
  · intro key checkpoint loaded spared
    refine ⟨fun inside => ?_, fun next count collected =>
      kept_iff manager now grace loaded spared collected⟩
    obtain ⟨infos, listed⟩ := list_of_loaded loaded
    exact collects_of_list manager now grace listed inside
  · intro events legible name info stray
    exact stray.of_handleAll legible

open StoreCall (unobserved)
open Manager (beginning)

/-- A checkpoint in its own file and an earlier one of the same key in a
copy. -/
def copied : Directory :=
  ⟨"/checkpoints", .present
    ((SortedMap.ofList [("copy.json", nodeOf (unobserved "web" 100))]).insert
      (fileName (stem (unobserved "web" 200).key))
      (nodeOf (unobserved "web" 200)))⟩

/-- The copy is listed beside the checkpoint, and a collection deletes the
checkpoint on account of it. -/
theorem copy_listed_and_collected :
    (∃ infos, copied.list Float = .ok infos ∧
      ¬ copied.Faithful Float infos) ∧
    copied.load (unobserved "web" 200).key = .ok (some (unobserved "web" 200)) ∧
    beginning.spares ⟨250, 0⟩ 100 (unobserved "web" 200).info = true ∧
    ∃ next count,
      beginning.collectGarbage ⟨250, 0⟩ 100 copied = .ok (next, count) ∧
        next.load (α := Float) (unobserved "web" 200).key = .ok none := by
  have legible : ∀ seconds ∈ [100, 200],
      (unobserved "web" seconds).Legible := by decide +kernel
  have other : "copy.json" ≠ fileName (stem (unobserved "web" 200).key) :=
    ne_fileName_of_short (by decide)
  have own : copied.nodes.find? (fileName (stem (unobserved "web" 200).key)) =
      some (nodeOf (unobserved "web" 200)) :=
    SortedMap.find?_insert_self _ _ _
  have copy : copied.nodes.find? "copy.json" =
      some (nodeOf (unobserved "web" 100)) :=
    (SortedMap.find?_insert_of_ne _ _ other).trans
      (SortedMap.find?_insert_self _ _ _)
  have loaded : copied.load (unobserved "web" 200).key =
      .ok (some (unobserved "web" 200)) :=
    load_of_file rfl (legible 200 (by simp)) own
  have stray : copied.Stray Float "copy.json"
      (unobserved "web" 100).info :=
    ⟨fileInfo?_eq_some_iff.2 ⟨by decide, _,
      readFile_file rfl (legible 100 (by simp)) copy, rfl⟩, other⟩
  obtain ⟨infos, listed⟩ := list_of_loaded loaded
  refine ⟨⟨infos, listed, fun faithful =>
    (faithful_iff_no_stray listed).1 faithful _ _ stray⟩, loaded,
    by decide +kernel, ?_⟩
  obtain ⟨next, count, collected⟩ :=
    collects_of_list beginning ⟨250, 0⟩ 100 listed (by decide +kernel)
  refine ⟨next, count, collected, ?_⟩
  rw [load_of_collected beginning ⟨250, 0⟩ 100 listed loaded collected,
    if_pos]
  exact ⟨(unobserved "web" 100).info, List.mem_filter.2
    ⟨(mem_of_list listed).2 ⟨_, stray.told⟩, by decide +kernel⟩, rfl⟩

/-- Without the copy the checkpoint is listed once, and kept. -/
theorem lone_checkpoint_kept :
    let fresh : Directory := ⟨"/checkpoints", .absent⟩
    let event : Event Float := .save (unobserved "web" 200) (.after 5)
    let lone := fresh.handleAll [event]
    lone.load (unobserved "web" 200).key = .ok (some (unobserved "web" 200)) ∧
      (∃ infos, lone.list Float = .ok infos ∧
        lone.Faithful Float infos) ∧
      ∃ next count,
        beginning.collectGarbage ⟨250, 0⟩ 100 lone = .ok (next, count) ∧
          next.load (unobserved "web" 200).key =
            .ok (some (unobserved "web" 200)) := by
  intro fresh event lone
  have legible : (unobserved "web" 200).Legible := by decide +kernel
  have saved : fresh.save (unobserved "web" 200) =
      (fresh.handle event, .ok ()) :=
    (Usable.new "/checkpoints").saved_of_completes (unobserved "web" 200) rfl
  rw [← handleAll_singleton] at saved
  have returns := (contains_of_saved saved).returns legible
  obtain ⟨infos, listed, -⟩ := returns.listed
  obtain ⟨-, -, history⟩ :=
    listing_faithful_iff fresh beginning ⟨250, 0⟩ 100
  have none : ∀ name info, ¬ lone.Stray Float name info := by
    intro name info stray
    have before := history [event] (by simpa [event] using legible) name
      info stray
    have listed := mem_names_of_told before.told
    exact List.not_mem_nil listed
  obtain ⟨faithful, collections, -⟩ :=
    listing_faithful_iff lone beginning ⟨250, 0⟩ 100
  obtain ⟨completes, keeps⟩ := collections (unobserved "web" 200).key
    (unobserved "web" 200) returns.loaded (by decide +kernel)
  obtain ⟨next, count, collected⟩ := completes (by decide +kernel)
  refine ⟨returns.loaded,
    ⟨infos, listed, (faithful infos listed).1.2 none⟩,
    next, count, collected, ?_⟩
  exact (keeps next count collected).2 fun name info stray =>
    absurd stray (none name info)

end UsageForecast.Directory
