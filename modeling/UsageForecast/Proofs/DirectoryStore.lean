import UsageForecast.Proofs.CheckpointText
import UsageForecast.Proofs.StoreLaws
import UsageForecast.Checkpoint.Directory

/-!
# Directories that answer like maps

A directory mirrors a map of checkpoints if its checkpoint files are those of
the map: each under the digest of its key, with the text of the checkpoint.
Other files do not matter as long as they have another extension.
-/

namespace UsageForecast

theorem Digest.le_length_wordDigits (word : UInt32) :
    8 ≤ (wordDigits word).length := by
  simp only [wordDigits, List.length_append, List.length_replicate]
  omega

theorem Digest.le_length_hexadecimal (text : String) :
    8 ≤ (hexadecimal text).length := by
  have first := le_length_wordDigits
    (absorb start (words (pad text.toUTF8.toList))).a
  simp only [hexadecimal, State.words, List.flatMap_cons,
    String.length_ofList, List.length_append]
  omega

theorem Digest.hexadecimal_ne_empty (text : String) :
    hexadecimal text ≠ "" := by
  intro empty
  have letters := le_length_hexadecimal text
  rw [empty, String.length_empty] at letters
  omega

/-- No two texts of a list have the same digest. -/
def Digest.Separates (texts : List String) : Prop :=
  ∀ text ∈ texts, ∀ other ∈ texts,
    hexadecimal text = hexadecimal other → text = other

theorem Digest.separates_pair {text other : String}
    (different : hexadecimal text ≠ hexadecimal other) :
    Separates [text, other] := by
  simp [Separates, different, different.symm]

theorem Digest.Separates.mono {texts part : List String}
    (separate : Separates texts) (included : part ⊆ texts) :
    Separates part :=
  fun text member other listed =>
    separate text (included member) other (included listed)

namespace Directory

section Names

theorem fileName_toList (stem : String) :
    (fileName stem).toList = stem.toList ++ ".json".toList := by
  simp [fileName, String.join]

theorem temporaryName_toList (stem : String) :
    (temporaryName stem).toList = stem.toList ++ ".tmp".toList := by
  simp [temporaryName, String.join]

theorem fileName_injective {left right : String}
    (same : fileName left = fileName right) : left = right := by
  have letters := congrArg String.toList same
  rw [fileName_toList, fileName_toList] at letters
  exact String.toList_inj.1 (List.append_cancel_right letters)

theorem fileName_ne_temporaryName (left right : String) :
    fileName left ≠ temporaryName right := by
  intro same
  have last := congrArg (fun name => name.toList.getLast?) same
  simp [fileName_toList, temporaryName_toList] at last

private theorem extension?_of_append {name : String} {key : ProfileKey}
    {extension : List Char} (plain : '.' ∉ extension)
    (shape : name.toList = (stem key).toList ++ '.' :: extension) :
    extension? name = some (String.ofList extension) := by
  have letters : (stem key).toList.reverse ≠ [] :=
    List.reverse_ne_nil_iff.2 fun empty =>
      Digest.hexadecimal_ne_empty _ (String.toList_eq_nil_iff.1 empty)
  obtain ⟨letter, rest, named⟩ := List.exists_cons_of_ne_nil letters
  have after : ∀ letter ∈ extension.reverse, (letter != '.') = true := by
    intro letter member
    simpa using ne_of_mem_of_not_mem (List.mem_reverse.1 member) plain
  simp [extension?, shape, List.span_eq_takeWhile_dropWhile, named,
    List.takeWhile_append_of_pos after, List.dropWhile_append_of_pos after]

theorem extension?_fileName (key : ProfileKey) :
    extension? (fileName (stem key)) = some "json" :=
  extension?_of_append (by decide) (fileName_toList _)

theorem extension?_temporaryName (key : ProfileKey) :
    extension? (temporaryName (stem key)) = some "tmp" :=
  extension?_of_append (by decide) (temporaryName_toList _)

end Names

/-- Keys whose texts have different digests have files of their own. -/
theorem apart_of_separates {keys : List ProfileKey}
    (separate : Digest.Separates (keys.map fun key => key.toJson.render)) :
    ∀ key ∈ keys, ∀ other ∈ keys, stem key = stem other → key = other := by
  intro key member other listed same
  refine ProfileKey.render_injective ?_
  exact separate _ (List.mem_map_of_mem member) _ (List.mem_map_of_mem listed)
    same

variable {α : Type} [Scalar α]

/-- The node that a save leaves behind. -/
abbrev nodeOf (checkpoint : Checkpoint α) : Node :=
  .file checkpoint.toJson.render

/-- A map whose checkpoints can be kept in files of their own. -/
structure Holdable (map : MemoryStore α) : Prop where
  keyed : map.Keyed
  legible : ∀ key checkpoint, map.find? key = some checkpoint →
    checkpoint.Legible
  apart : ∀ key ∈ map.keys, ∀ other ∈ map.keys,
    stem key = stem other → key = other

theorem Holdable.save {map : MemoryStore α} (holdable : Holdable map)
    {checkpoint : Checkpoint α} (legible : checkpoint.Legible)
    (apart : ∀ key ∈ map.keys,
      stem checkpoint.key = stem key → checkpoint.key = key) :
    Holdable (map.save checkpoint) where
  keyed := holdable.keyed.save checkpoint
  legible := by
    intro key found held
    rw [MemoryStore.save, SortedMap.find?_insert] at held
    split at held
    next =>
      cases held
      exact legible
    next => exact holdable.legible key found held
  apart := by
    intro key listed other mentioned same
    rcases SortedMap.mem_keys_insert_iff.1 listed with rfl | known
    · rcases SortedMap.mem_keys_insert_iff.1 mentioned with rfl | kept
      · rfl
      · exact apart other kept same
    · rcases SortedMap.mem_keys_insert_iff.1 mentioned with rfl | kept
      · exact (apart key known same.symm).symm
      · exact holdable.apart key known other kept same

theorem Holdable.erase {map : MemoryStore α} (holdable : Holdable map)
    (key : ProfileKey) : Holdable (SortedMap.erase map key) where
  keyed := holdable.keyed.erase key
  legible := by
    intro other found held
    rw [SortedMap.find?_erase] at held
    split at held
    · cases held
    · exact holdable.legible other found held
  apart := by
    intro left listed right mentioned same
    exact holdable.apart left (SortedMap.mem_keys_erase_iff.1 listed).2
      right (SortedMap.mem_keys_erase_iff.1 mentioned).2 same

/-- The checkpoint files of a directory are those of a map. -/
structure Mirrors (directory : Directory) (map : MemoryStore α) : Prop
    extends Holdable map where
  reachable : directory.reachable = true
  noFolder : ∀ name, directory.nodes.find? name ≠ some .folder
  stored : ∀ key checkpoint, map.find? key = some checkpoint →
    directory.nodes.find? (fileName (stem key)) = some (nodeOf checkpoint)
  others : ∀ name node, directory.nodes.find? name = some node →
    extension? name = some "json" →
      ∃ key ∈ map.keys, name = fileName (stem key)

theorem perform_createDirectory {directory : Directory} (stem : String)
    (reachable : directory.reachable = true) :
    directory.perform stem .createDirectory =
      .ok (directory.withNodes directory.nodes) := by
  obtain ⟨path, content⟩ := directory
  cases content with
  | absent => rfl
  | present nodes => rfl
  | occupied => cases reachable
  | unreachable => cases reachable

theorem performAll_cons {directory next : Directory} {stem : String}
    {step : SaveStep} (performed : directory.perform stem step = .ok next)
    (rest : List SaveStep) :
    directory.performAll stem (step :: rest) = next.performAll stem rest := by
  rw [performAll, performed]

theorem perform_openTemporary {directory : Directory} {stem : String}
    (free : directory.nodes.find? (temporaryName stem) ≠ some .folder) :
    directory.perform stem .openTemporary =
      .ok (directory.withNodes
        (directory.nodes.insert (temporaryName stem) (.file ""))) := by
  simp only [perform]

theorem overwrite_empty (text : String) : overwrite "" text = text := by
  simp [overwrite]

theorem perform_write {directory : Directory} {stem held : String}
    (opened : directory.nodes.find? (temporaryName stem) =
      some (.file held)) (text : String) :
    directory.perform stem (.write text) =
      .ok (directory.withNodes (directory.nodes.insert (temporaryName stem)
        (.file (overwrite held text)))) := by
  simp only [perform, opened]

theorem perform_rename {directory : Directory} {stem : String} {node : Node}
    (free : directory.nodes.find? (fileName stem) ≠ some .folder)
    (held : directory.nodes.find? (temporaryName stem) = some node) :
    directory.perform stem .rename =
      .ok (directory.withNodes
        ((directory.nodes.erase (temporaryName stem)).insert
          (fileName stem) node)) := by
  simp only [perform, held]

/-- A save puts one file in place and leaves all others, but for its
temporary file. -/
theorem save_eq {directory : Directory} (checkpoint : Checkpoint α)
    (reachable : directory.reachable = true)
    (fileFree : directory.nodes.find? (fileName (stem checkpoint.key)) ≠
      some .folder)
    (temporaryFree : directory.nodes.find?
      (temporaryName (stem checkpoint.key)) ≠ some .folder) :
    ∃ nodes, directory.save checkpoint =
        (directory.withNodes nodes, .ok ()) ∧
      ∀ name, nodes.find? name =
        if name = fileName (stem checkpoint.key) then
          some (nodeOf checkpoint)
        else if name = temporaryName (stem checkpoint.key) then none
        else directory.nodes.find? name := by
  let target := fileName (stem checkpoint.key)
  let source := temporaryName (stem checkpoint.key)
  let opened := directory.nodes.insert source (.file "")
  let written := opened.insert source (nodeOf checkpoint)
  have free : written.find? target ≠ some .folder := by
    have other : target ≠ source := fileName_ne_temporaryName _ _
    rw [SortedMap.find?_insert_of_ne _ _ other,
      SortedMap.find?_insert_of_ne _ _ other]
    exact fileFree
  have held : written.find? source = some (nodeOf checkpoint) :=
    SortedMap.find?_insert_self _ _ _
  refine ⟨(written.erase source).insert target (nodeOf checkpoint), ?_, ?_⟩
  · have opens : (directory.withNodes directory.nodes).perform
        (stem checkpoint.key) .openTemporary =
          .ok (directory.withNodes opened) :=
      perform_openTemporary temporaryFree
    have renames : (directory.withNodes written).perform
        (stem checkpoint.key) .rename = .ok (directory.withNodes
          ((written.erase source).insert target (nodeOf checkpoint))) :=
      perform_rename free held
    have writes : (directory.withNodes opened).perform
        (stem checkpoint.key) (.write checkpoint.toJson.render) =
          .ok (directory.withNodes written) := by
      have empty : (directory.withNodes opened).nodes.find? source =
          some (.file "") := SortedMap.find?_insert_self _ _ _
      rw [perform_write empty, overwrite_empty]
      rfl
    have syncs : (directory.withNodes written).perform
        (stem checkpoint.key) .sync = .ok (directory.withNodes written) :=
      rfl
    rw [save, saveSteps,
      performAll_cons (perform_createDirectory _ reachable),
      performAll_cons opens, performAll_cons writes,
      performAll_cons syncs, performAll_cons renames]
    rfl
  · intro name
    rw [SortedMap.find?_insert, SortedMap.find?_erase]
    split
    · rfl
    split
    · rfl
    next moved =>
      rw [SortedMap.find?_insert_of_ne _ _ moved,
        SortedMap.find?_insert_of_ne _ _ moved]

theorem of_performAll_cons {directory next : Directory} {stem : String}
    {step : SaveStep} {rest : List SaveStep}
    (performed : directory.performAll stem (step :: rest) =
      (next, .ok ())) :
    ∃ between, directory.perform stem step = .ok between ∧
      between.performAll stem rest = (next, .ok ()) := by
  rw [performAll] at performed
  split at performed
  next between ended => exact ⟨between, ended, performed⟩
  next => cases performed

theorem file_of_written {directory opened next : Directory}
    {stem text : String}
    (opens : directory.perform stem .openTemporary = .ok opened)
    (wrote : opened.perform stem (.write text) = .ok next) :
    next.nodes.find? (temporaryName stem) = some (.file text) := by
  have empty : opened.nodes.find? (temporaryName stem) =
      some (.file "") := by
    unfold perform at opens
    dsimp only at opens
    split at opens
    · cases opens
    · cases opens
      exact SortedMap.find?_insert_self _ _ _
  rw [perform_write empty, overwrite_empty] at wrote
  cases wrote
  exact SortedMap.find?_insert_self _ _ _

theorem file_of_renamed {directory next : Directory} {stem : String}
    {node : Node}
    (held : directory.nodes.find? (temporaryName stem) = some node)
    (moved : directory.perform stem .rename = .ok next) :
    next.reachable = true ∧
      next.nodes.find? (fileName stem) = some node := by
  by_cases free : directory.nodes.find? (fileName stem) = some .folder
  · simp [perform, free] at moved
  · rw [perform_rename free held] at moved
    cases moved
    exact ⟨rfl, SortedMap.find?_insert_self _ _ _⟩

/-- What a save leaves behind, whatever else is in the directory. -/
theorem file_of_saved {directory next : Directory}
    {checkpoint : Checkpoint α}
    (saved : directory.save checkpoint = (next, .ok ())) :
    next.reachable = true ∧
      next.nodes.find? (fileName (stem checkpoint.key)) =
        some (nodeOf checkpoint) := by
  obtain ⟨created, -, afterCreated⟩ := of_performAll_cons saved
  obtain ⟨opened, opens, afterOpened⟩ := of_performAll_cons afterCreated
  obtain ⟨written, wrote, afterWritten⟩ := of_performAll_cons afterOpened
  obtain ⟨synced, reached, afterSynced⟩ := of_performAll_cons afterWritten
  obtain ⟨renamed, moved, done⟩ := of_performAll_cons afterSynced
  cases reached
  cases done
  exact file_of_renamed (file_of_written opens wrote) moved

section

variable {directory : Directory}

theorem readFile_file {checkpoint : Checkpoint α} {name : String}
    (reachable : directory.reachable = true) (legible : checkpoint.Legible)
    (held : directory.nodes.find? name = some (nodeOf checkpoint)) :
    directory.readFile name = .ok (some checkpoint) := by
  simp only [readFile, reachable, if_true, held,
    legible.faithful.ofText?_render]

theorem load_of_readFile {checkpoint : Checkpoint α} {key : ProfileKey}
    (read : directory.readFile (fileName (stem key)) =
      .ok (some checkpoint)) :
    directory.load key =
      .ok (if checkpoint.key = key then some checkpoint else none) := by
  rw [load, read]

theorem load_of_file {checkpoint : Checkpoint α}
    (reachable : directory.reachable = true) (legible : checkpoint.Legible)
    (held : directory.nodes.find? (fileName (stem checkpoint.key)) =
      some (nodeOf checkpoint)) :
    directory.load checkpoint.key = .ok (some checkpoint) := by
  rw [load_of_readFile (readFile_file reachable legible held), if_pos rfl]

namespace Mirrors

variable {map : MemoryStore α}

theorem empty {directory : Directory} (absent : directory.content = .absent) :
    directory.Mirrors (∅ : MemoryStore α) where
  reachable := by rw [Directory.reachable, absent]
  noFolder name := by
    rw [nodes, absent]
    nofun
  keyed := MemoryStore.keyed_empty
  legible := nofun
  apart := nofun
  stored := nofun
  others name node held := by
    rw [nodes, absent] at held
    cases held

/-- A file with the extension of checkpoints is that of a key. -/
theorem file_iff (mirrors : directory.Mirrors map) {key : ProfileKey}
    {node : Node} :
    directory.nodes.find? (fileName (stem key)) = some node ↔
      ∃ other checkpoint, map.find? other = some checkpoint ∧
        stem other = stem key ∧ node = nodeOf checkpoint := by
  constructor
  · intro held
    obtain ⟨other, listed, name⟩ :=
      mirrors.others _ node held (extension?_fileName key)
    obtain ⟨checkpoint, found⟩ :=
      Option.isSome_iff_exists.1 (SortedMap.mem_keys_iff.1 listed)
    have stored := mirrors.stored other checkpoint found
    rw [← name, held] at stored
    exact ⟨other, checkpoint, found, (fileName_injective name).symm,
      Option.some.inj stored⟩
  · rintro ⟨other, checkpoint, found, same, rfl⟩
    rw [← same]
    exact mirrors.stored other checkpoint found

theorem absent_of_no_file (mirrors : directory.Mirrors map)
    {key : ProfileKey}
    (none : directory.nodes.find? (fileName (stem key)) = none) :
    map.find? key = .none := by
  by_contra present
  obtain ⟨checkpoint, found⟩ := Option.ne_none_iff_exists'.1 present
  rw [mirrors.stored key checkpoint found] at none
  cases none

theorem load_eq (mirrors : directory.Mirrors map) (key : ProfileKey) :
    directory.load key = .ok (map.find? key) := by
  cases held : directory.nodes.find? (fileName (stem key)) with
  | none =>
      simp [load, readFile, mirrors.reachable, held,
        mirrors.absent_of_no_file held]
  | some node =>
      obtain ⟨other, checkpoint, found, same, rfl⟩ :=
        mirrors.file_iff.1 held
      have read := readFile_file mirrors.reachable
        (mirrors.legible other checkpoint found) held
      rw [load_of_readFile read, mirrors.keyed _ _ found]
      by_cases equal : other = key
      · rw [if_pos equal, ← equal, found]
      · have absent : map.find? key = none := by
          rw [SortedMap.find?_eq_none_iff]
          intro listed
          exact equal (mirrors.apart other
            (SortedMap.mem_keys_of_find? found) key listed same)
        rw [if_neg equal, absent]

theorem fileInfo?_eq_some_iff (mirrors : directory.Mirrors map)
    {name : String} {info : Checkpoint.Info} :
    directory.fileInfo? α name = some info ↔
      ∃ key checkpoint, map.find? key = some checkpoint ∧
        name = fileName (stem key) ∧ checkpoint.info = info := by
  constructor
  · intro told
    have extended : extension? name = some "json" := by
      by_contra other
      simp [fileInfo?, other] at told
    cases held : directory.nodes.find? name with
    | none =>
        simp [fileInfo?, extended, readFile, mirrors.reachable, held] at told
    | some node =>
        obtain ⟨key, listed, rfl⟩ := mirrors.others name node held extended
        obtain ⟨other, checkpoint, found, same, rfl⟩ :=
          mirrors.file_iff.1 held
        have read := readFile_file mirrors.reachable
          (mirrors.legible other checkpoint found) held
        simp only [fileInfo?, extended, if_true, read] at told
        exact ⟨other, checkpoint, found, congrArg fileName same.symm,
          Option.some.inj told⟩
  · rintro ⟨key, checkpoint, found, rfl, rfl⟩
    have read := readFile_file mirrors.reachable
      (mirrors.legible key checkpoint found)
      (mirrors.stored key checkpoint found)
    simp [fileInfo?, extension?_fileName, read]

theorem list_perm (mirrors : directory.Mirrors map) :
    ∃ infos, directory.list α = .ok infos ∧ infos.Perm map.infos := by
  refine ⟨_, if_pos mirrors.reachable, ?_⟩
  refine (List.perm_ext_iff_of_nodup ?_ mirrors.keyed.infos_nodup).2 ?_
  · refine directory.nodes.keys_nodup.filterMap ?_
    intro left right info leftTold rightTold
    obtain ⟨key, checkpoint, found, rfl, rfl⟩ :=
      mirrors.fileInfo?_eq_some_iff.1 leftTold
    obtain ⟨other, another, known, rfl, same⟩ :=
      mirrors.fileInfo?_eq_some_iff.1 rightTold
    have keys := congrArg Checkpoint.Info.key same
    change another.key = checkpoint.key at keys
    rw [mirrors.keyed _ _ found, mirrors.keyed _ _ known] at keys
    rw [keys]
  · intro info
    rw [List.mem_filterMap, MemoryStore.mem_infos_iff]
    constructor
    · rintro ⟨name, -, told⟩
      obtain ⟨key, checkpoint, found, -, same⟩ :=
        mirrors.fileInfo?_eq_some_iff.1 told
      exact ⟨key, checkpoint, found, same⟩
    · rintro ⟨key, checkpoint, found, same⟩
      exact ⟨fileName (stem key),
        SortedMap.mem_keys_of_find? (mirrors.stored key checkpoint found),
        mirrors.fileInfo?_eq_some_iff.2
          ⟨key, checkpoint, found, rfl, same⟩⟩

theorem save_eq (mirrors : directory.Mirrors map)
    {checkpoint : Checkpoint α} (legible : checkpoint.Legible)
    (apart : ∀ key ∈ map.keys,
      stem checkpoint.key = stem key → checkpoint.key = key) :
    ∃ next, directory.save checkpoint = (next, .ok ()) ∧
      next.Mirrors (map.save checkpoint) := by
  obtain ⟨nodes, saved, files⟩ :=
    Directory.save_eq checkpoint mirrors.reachable (mirrors.noFolder _)
      (mirrors.noFolder _)
  refine ⟨directory.withNodes nodes, saved, {
    toHoldable := mirrors.toHoldable.save legible apart
    reachable := rfl
    noFolder := ?_
    stored := ?_
    others := ?_ }⟩
  · intro name
    change nodes.find? name ≠ _
    rw [files]
    split
    · nofun
    split
    · nofun
    · exact mirrors.noFolder name
  · intro key found held
    change nodes.find? _ = _
    rw [MemoryStore.save, SortedMap.find?_insert] at held
    rw [files]
    split at held
    next same =>
      cases held
      rw [same, if_pos rfl]
    next different =>
      have distinct : fileName (stem key) ≠
          fileName (stem checkpoint.key) := fun same =>
        different (apart key (SortedMap.mem_keys_of_find? held)
          (fileName_injective same).symm).symm
      rw [if_neg distinct, if_neg (fileName_ne_temporaryName _ _)]
      exact mirrors.stored key found held
  · intro name node held extended
    change nodes.find? name = _ at held
    rw [files] at held
    split at held
    next same =>
      exact ⟨checkpoint.key, SortedMap.mem_keys_insert_iff.2 (.inl rfl),
        same⟩
    split at held
    · cases held
    · obtain ⟨key, listed, same⟩ := mirrors.others name node held extended
      exact ⟨key, SortedMap.mem_keys_insert_iff.2 (.inr listed), same⟩

theorem delete_eq (mirrors : directory.Mirrors map) {key : ProfileKey}
    (apart : ∀ other ∈ map.keys, stem key = stem other → key = other) :
    ∃ next, directory.delete key = (next, .ok (map.contains key)) ∧
      next.Mirrors (map.erase key) := by
  cases held : directory.nodes.find? (fileName (stem key)) with
  | none =>
      have absent := mirrors.absent_of_no_file held
      refine ⟨directory, ?_, ?_⟩
      · simp [delete, mirrors.reachable, held, SortedMap.contains, absent]
      · rw [SortedMap.erase_of_absent absent]
        exact mirrors
  | some node =>
      obtain ⟨other, checkpoint, found, same, rfl⟩ :=
        mirrors.file_iff.1 held
      obtain rfl : key = other :=
        apart other (SortedMap.mem_keys_of_find? found) same.symm
      refine ⟨directory.withNodes
        (directory.nodes.erase (fileName (stem key))), ?_, {
          toHoldable := mirrors.toHoldable.erase key
          reachable := rfl
          noFolder := ?_
          stored := ?_
          others := ?_ }⟩
      · simp [delete, mirrors.reachable, held, SortedMap.contains, found]
      · intro name
        change (SortedMap.erase _ _).find? name ≠ _
        rw [SortedMap.find?_erase]
        split
        · exact Option.some_ne_none _ ∘ Eq.symm
        · exact mirrors.noFolder name
      · intro left saved kept
        change (SortedMap.erase _ _).find? _ = _
        rw [SortedMap.find?_erase] at kept ⊢
        split at kept
        · cases kept
        next different =>
          have distinct : fileName (stem left) ≠ fileName (stem key) :=
            fun same => different (apart left
              (SortedMap.mem_keys_of_find? kept)
              (fileName_injective same).symm).symm
          rw [if_neg distinct]
          exact mirrors.stored left saved kept
      · intro name node kept extended
        change (SortedMap.erase _ _).find? name = _ at kept
        rw [SortedMap.find?_erase] at kept
        split at kept
        · cases kept
        next different =>
          obtain ⟨left, listed, rfl⟩ :=
            mirrors.others name node kept extended
          refine ⟨left, SortedMap.mem_keys_erase_iff.2 ⟨?_, listed⟩, rfl⟩
          rintro rfl
          exact different rfl

end Mirrors

end

theorem stored_iff [Checkpoint.Diagnosis] {directory next : Directory}
    {checkpoint : Checkpoint α} :
    CheckpointStore.save directory checkpoint = (next, .ok ()) ↔
      directory.save checkpoint = (next, .ok ()) := by
  cases ended : directory.save checkpoint with
  | mk left outcome =>
      simp only [CheckpointStore.save, ended]
      cases outcome <;> simp [Except.mapError]

instance [Checkpoint.Diagnosis] : LawfulStore Directory α where
  Mirrors := Mirrors
  Storable := Checkpoint.Legible
  Apart key other := stem key = stem other → key = other
  keyed mirrors := mirrors.keyed
  apart mirrors := mirrors.apart
  load_eq mirrors key :=
    congrArg (Except.mapError _) (mirrors.load_eq key)
  list_perm mirrors := by
    obtain ⟨infos, listed, same⟩ := mirrors.list_perm
    exact ⟨infos, congrArg (Except.mapError _) listed, same⟩
  save_eq mirrors legible apart := by
    obtain ⟨next, saved, mirrored⟩ := mirrors.save_eq legible apart
    exact ⟨next, stored_iff.2 saved, mirrored⟩
  delete_eq mirrors apart := by
    obtain ⟨next, deleted, mirrored⟩ := mirrors.delete_eq apart
    exact ⟨next, by simp [CheckpointStore.delete, deleted, Except.mapError],
      mirrored⟩
  load_of_saved {directory next checkpoint} legible saved := by
    obtain ⟨reachable, held⟩ := file_of_saved (stored_iff.1 saved)
    exact congrArg (Except.mapError _)
      (load_of_file reachable legible held)

end Directory

end UsageForecast
