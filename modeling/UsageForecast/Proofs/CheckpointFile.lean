import UsageForecast.Proofs.CheckpointNumbers
import UsageForecast.Proofs.DirectoryStore

/-!
# What the file of a checkpoint tells

A checkpoint with finite numbers is loaded from its file and listed.  With any
other number the file counts as undecodable: it cannot be loaded, and listings
pass it over.
-/

namespace UsageForecast.Directory

variable {α : Type} [Scalar α] {directory : Directory}
  {checkpoint : Checkpoint α}

/-- The directory has the file of a checkpoint. -/
structure Contains (directory : Directory) (checkpoint : Checkpoint α) :
    Prop where
  reachable : directory.reachable = true
  file : directory.nodes.find? (fileName (stem checkpoint.key)) =
    some (nodeOf checkpoint)

/-- A checkpoint is loaded and listed. -/
structure Returns (directory : Directory) (checkpoint : Checkpoint α) :
    Prop where
  loaded : directory.load checkpoint.key = .ok (some checkpoint)
  listed : ∃ infos, directory.list α = .ok infos ∧ checkpoint.info ∈ infos

/-- A checkpoint cannot be loaded, and its file is not listed. -/
structure Withholds (directory : Directory) (checkpoint : Checkpoint α) :
    Prop where
  unloaded : directory.load (α := α) checkpoint.key =
    .error ⟨.decode (fileName (stem checkpoint.key)),
      .undecodable checkpoint.toJson.render⟩
  unlisted :
    directory.fileInfo? α (fileName (stem checkpoint.key)) = none

theorem contains_of_saved {next : Directory}
    (saved : directory.save checkpoint = (next, .ok ())) :
    next.Contains checkpoint :=
  ⟨(file_of_saved saved).1, (file_of_saved saved).2⟩

theorem Contains.returns (contains : directory.Contains checkpoint)
    (legible : checkpoint.Legible) : directory.Returns checkpoint where
  loaded := load_of_file contains.reachable legible contains.file
  listed := by
    have read := readFile_file contains.reachable legible contains.file
    refine ⟨_, if_pos contains.reachable, List.mem_filterMap.2
      ⟨_, SortedMap.mem_keys_of_find? contains.file, ?_⟩⟩
    rw [fileInfo?, if_pos (extension?_fileName _), read]

theorem Contains.withholds [DecimalScalar α]
    (contains : directory.Contains checkpoint)
    (numbered : checkpoint.Numbered) (infinite : ¬ checkpoint.Finite) :
    directory.Withholds checkpoint := by
  have read : directory.readFile (α := α)
      (fileName (stem checkpoint.key)) =
        .error ⟨.decode (fileName (stem checkpoint.key)),
          .undecodable checkpoint.toJson.render⟩ := by
    simp only [readFile, contains.reachable, if_true, contains.file,
      numbered.unreadable infinite]
  refine ⟨?_, ?_⟩
  · rw [load, read]
  · rw [fileInfo?, if_pos (extension?_fileName _), read]

/-- Whether a checkpoint comes back depends on its numbers. -/
structure Tells (directory : Directory) (checkpoint : Checkpoint α) :
    Prop where
  finite : checkpoint.Finite → checkpoint.Transcribed →
    directory.Returns checkpoint
  infinite : ¬ checkpoint.Finite → directory.Withholds checkpoint

theorem Contains.tells [DecimalScalar α]
    (contains : directory.Contains checkpoint)
    (numbered : checkpoint.Numbered) : directory.Tells checkpoint where
  finite finite transcribed :=
    contains.returns (transcribed.legible numbered finite)
  infinite infinite := contains.withholds numbered infinite

end UsageForecast.Directory
