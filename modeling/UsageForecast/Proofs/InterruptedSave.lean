import Mathlib.Tactic.IntervalCases
import UsageForecast.Proofs.CheckpointFile
import UsageForecast.Proofs.NumberedBuckets
import UsageForecast.Proofs.StoreHistory

/-!
# Saves that are interrupted

A save can stop between any two of its steps, and while it writes.  Until the
temporary file is renamed no checkpoint file has changed, so a directory with
interrupted saves in its past answers like one without them.  A temporary file
that is left over does not hinder later saves.
-/

namespace UsageForecast.Directory

/-- How far a save gets. -/
inductive Progress where
  /-- It carries out so many whole steps. -/
  | after (count : Nat)
  /-- It stops while writing; so much of the text is in the file. -/
  | writing (written : String)
deriving DecidableEq, Repr

def Progress.steps (text : String) : Progress → List SaveStep
  | .after count => (saveSteps text).take count
  | .writing written => [.createDirectory, .openTemporary, .write written]

/-- Whether all steps are carried out. -/
def Progress.completes : Progress → Bool
  | .after count => 5 ≤ count
  | .writing _ => false

section Congruence

variable {left right : Directory} {α : Type} [Scalar α]

theorem readFile_congr {name : String}
    (reachable : left.reachable = right.reachable)
    (file : left.nodes.find? name = right.nodes.find? name) :
    left.readFile (α := α) name = right.readFile name := by
  rw [readFile, readFile, reachable, file]

theorem load_congr {key : ProfileKey}
    (read : left.readFile (α := α) (fileName (stem key)) =
      right.readFile (fileName (stem key))) :
    left.load (α := α) key = right.load key := by
  rw [load, load, read]

theorem fileInfo?_congr {name : String}
    (read : extension? name = some "json" →
      left.readFile (α := α) name = right.readFile name) :
    left.fileInfo? α name = right.fileInfo? α name := by
  unfold fileInfo?
  split
  next extended => rw [read extended]
  next => rfl

end Congruence

/-- All loads and listings have the same answers. -/
structure AnswersAs (α : Type) [Scalar α] (left right : Directory) :
    Prop where
  load (key : ProfileKey) : left.load (α := α) key = right.load key
  list : left.list α = right.list α

/-- Both directories have the same checkpoint files. -/
structure SameFiles (left right : Directory) : Prop where
  reachable : left.reachable = right.reachable
  file : ∀ name, extension? name = some "json" →
    left.nodes.find? name = right.nodes.find? name

namespace SameFiles

theorem refl (directory : Directory) : directory.SameFiles directory :=
  ⟨rfl, fun _ _ => rfl⟩

theorem trans {first second third : Directory}
    (before : first.SameFiles second) (after : second.SameFiles third) :
    first.SameFiles third where
  reachable := before.reachable.trans after.reachable
  file name extended :=
    (before.file name extended).trans (after.file name extended)

variable {left right : Directory} (same : left.SameFiles right)
  (α : Type) [Scalar α]
include same

private theorem list_eq : left.list α = right.list α := by
  let kept (name : String) : Bool := extension? name = some "json"
  have files : (left.nodes.filter fun name _ => kept name) =
      right.nodes.filter fun name _ => kept name := by
    refine SortedMap.eq_of_find?_eq fun name => ?_
    rw [SortedMap.find?_filter, SortedMap.find?_filter]
    by_cases extended : extension? name = some "json"
    · rw [same.file name extended]
    · have dropped : kept name = false := decide_eq_false extended
      simp only [dropped]
      cases left.nodes.find? name <;> cases right.nodes.find? name <;> rfl
  have listed (directory : Directory) :
      directory.names.filterMap (directory.fileInfo? α) =
        (directory.nodes.filter fun name _ => kept name).keys.filterMap
          (directory.fileInfo? α) := by
    rw [SortedMap.keys_filter, List.filterMap_filter]
    refine List.filterMap_congr fun name _ => ?_
    by_cases extended : extension? name = some "json" <;>
      simp [fileInfo?, kept, extended]
  have told : left.fileInfo? α = right.fileInfo? α :=
    funext fun name => fileInfo?_congr fun extended =>
      readFile_congr same.reachable (same.file name extended)
  rw [list, list, same.reachable, listed, listed, files, told]

theorem answersAs : left.AnswersAs α right where
  load key := load_congr (readFile_congr same.reachable
    (same.file _ (extension?_fileName key)))
  list := same.list_eq α

end SameFiles

section Steps

variable {directory next : Directory} {key : ProfileKey}

theorem ne_temporaryName {name : String}
    (extended : extension? name = some "json") :
    name ≠ temporaryName (stem key) := by
  rintro rfl
  rw [extension?_temporaryName] at extended
  exact absurd (Option.some.inj extended) (by decide)

theorem find?_insert_temporary {nodes : SortedMap String Node} {node : Node}
    {name : String} (extended : extension? name = some "json") :
    (nodes.insert (temporaryName (stem key)) node).find? name =
      nodes.find? name :=
  SortedMap.find?_insert_of_ne _ _ (ne_temporaryName extended)

/-- Until the temporary file is renamed no checkpoint file changes. -/
theorem sameFiles_perform {step : SaveStep} (other : step ≠ .rename)
    (reachable : directory.reachable = true)
    (performed : directory.perform (stem key) step = .ok next) :
    next.SameFiles directory := by
  cases step with
  | createDirectory =>
      rw [perform_createDirectory _ reachable] at performed
      cases performed
      exact ⟨reachable.symm, fun _ _ => rfl⟩
  | openTemporary =>
      unfold perform at performed
      dsimp only at performed
      split at performed
      · cases performed
      · cases performed
        exact ⟨reachable.symm, fun _ => find?_insert_temporary⟩
  | write text =>
      unfold perform at performed
      dsimp only at performed
      split at performed
      · cases performed
        exact ⟨reachable.symm, fun _ => find?_insert_temporary⟩
      · cases performed
        exact .refl _
  | sync =>
      cases performed
      exact .refl _
  | rename => exact absurd rfl other

theorem sameFiles_performAll {steps : List SaveStep}
    (others : .rename ∉ steps) (reachable : directory.reachable = true) :
    (directory.performAll (stem key) steps).1.SameFiles directory := by
  induction steps generalizing directory with
  | nil => exact .refl directory
  | cons step steps induction =>
      rw [List.mem_cons, not_or] at others
      obtain ⟨other, others⟩ := others
      rw [performAll]
      split
      next next performed =>
        have same := sameFiles_perform (Ne.symm other) reachable performed
        exact (induction others (same.reachable.trans reachable)).trans same
      next => exact .refl directory

theorem performAll_append (directory : Directory) (stem : String)
    (first last : List SaveStep) :
    directory.performAll stem (first ++ last) =
      match directory.performAll stem first with
      | (next, .ok _) => next.performAll stem last
      | (next, .error fault) => (next, .error fault) := by
  induction first generalizing directory with
  | nil => rfl
  | cons step first induction =>
      rw [List.cons_append, performAll, performAll]
      cases directory.perform stem step with
      | ok next => exact induction next
      | error fault => rfl

/-- The steps of a save before the last one. -/
def writingSteps (text : String) : List SaveStep :=
  [.createDirectory, .openTemporary, .write text, .sync]

theorem save_or_sameFiles (text : String)
    (reachable : directory.reachable = true) :
    let stopped := directory.performAll (stem key) (saveSteps text)
    stopped.1.SameFiles directory ∨ stopped.2 = .ok () := by
  have others : .rename ∉ writingSteps text := by simp [writingSteps]
  have same : (directory.performAll (stem key)
      (writingSteps text)).1.SameFiles directory :=
    sameFiles_performAll others reachable
  have split : saveSteps text = writingSteps text ++ [.rename] := rfl
  rw [split, performAll_append]
  cases written : directory.performAll (stem key) (writingSteps text) with
  | mk middle outcome =>
      rw [written] at same
      cases outcome with
      | error fault => exact .inl same
      | ok _ =>
          dsimp only
          rw [performAll]
          cases middle.perform (stem key) .rename with
          | error fault => exact .inl same
          | ok next => exact .inr rfl

/-- A save in a directory that cannot be created changes nothing. -/
theorem performAll_of_unreachable {stem text : String}
    (unreachable : directory.reachable = false) (progress : Progress) :
    (directory.performAll stem (progress.steps text)).1 = directory := by
  have refused (rest : List SaveStep) :
      (directory.performAll stem (.createDirectory :: rest)).1 =
        directory := by
    obtain ⟨path, content⟩ := directory
    cases content with
    | absent => cases unreachable
    | present nodes => cases unreachable
    | occupied => rfl
    | unreachable => rfl
  cases progress with
  | writing written => exact refused _
  | after count =>
      cases count with
      | zero => rfl
      | succ count => exact refused _

theorem Progress.rename_not_mem {progress : Progress}
    (interrupted : progress.completes = false) (text : String) :
    .rename ∉ progress.steps text := by
  cases progress with
  | writing written => simp [steps]
  | after count =>
      have short : count < 5 := Nat.not_le.1 (of_decide_eq_false interrupted)
      rw [steps]
      interval_cases count <;> simp [saveSteps]

theorem Progress.steps_of_completes {progress : Progress}
    (completes : progress.completes = true) (text : String) :
    progress.steps text = saveSteps text := by
  cases progress with
  | writing written => cases completes
  | after count => exact List.take_of_length_le (of_decide_eq_true completes)

end Steps

/-- The names that a store uses. -/
def Reserved (name : String) : Prop :=
  ∃ key, name = fileName (stem key) ∨ name = temporaryName (stem key)

theorem reserved_fileName (key : ProfileKey) : Reserved (fileName (stem key)) :=
  ⟨key, .inl rfl⟩

theorem reserved_temporaryName (key : ProfileKey) :
    Reserved (temporaryName (stem key)) :=
  ⟨key, .inr rfl⟩

/-- A directory that can be written, with no folder in the way. -/
structure Usable (directory : Directory) : Prop where
  reachable : directory.reachable = true
  noFolder : ∀ name, Reserved name →
    directory.nodes.find? name ≠ some .folder

namespace Usable

theorem new (path : String) : Usable ⟨path, .absent⟩ :=
  ⟨rfl, fun _ _ => Option.some_ne_none _ ∘ Eq.symm⟩

variable {directory next : Directory}

theorem withNodes_insert {nodes : SortedMap String Node}
    (noFolder : ∀ name, Reserved name → nodes.find? name ≠ some .folder)
    {node : Node} (file : node ≠ .folder) (target : String) :
    (directory.withNodes (nodes.insert target node)).Usable where
  reachable := rfl
  noFolder name reserved := by
    change (nodes.insert target node).find? name ≠ _
    rw [SortedMap.find?_insert]
    split
    · exact fun same => file (Option.some.inj same)
    · exact noFolder name reserved

variable (usable : directory.Usable)
include usable

theorem noFolder_erase (target name : String) (reserved : Reserved name) :
    (directory.nodes.erase target).find? name ≠ some .folder := by
  rw [SortedMap.find?_erase]
  split
  · nofun
  · exact usable.noFolder name reserved

theorem perform {key : ProfileKey} {step : SaveStep}
    (performed : directory.perform (stem key) step = .ok next) :
    next.Usable := by
  have fileFree := usable.noFolder _ (reserved_fileName key)
  have temporaryFree := usable.noFolder _ (reserved_temporaryName key)
  cases step with
  | createDirectory =>
      rw [perform_createDirectory _ usable.reachable] at performed
      cases performed
      exact ⟨rfl, usable.noFolder⟩
  | openTemporary =>
      rw [perform_openTemporary temporaryFree] at performed
      cases performed
      exact withNodes_insert usable.noFolder (by simp) _
  | write text =>
      unfold Directory.perform at performed
      dsimp only at performed
      split at performed
      · cases performed
        exact withNodes_insert usable.noFolder (by simp) _
      · cases performed
        exact usable
  | sync =>
      cases performed
      exact usable
  | rename =>
      cases held : directory.nodes.find? (temporaryName (stem key)) with
      | none =>
          unfold Directory.perform at performed
          dsimp only at performed
          rw [held] at performed
          split at performed <;> cases performed
          exact usable
      | some node =>
          rw [perform_rename fileFree held] at performed
          cases performed
          refine withNodes_insert (usable.noFolder_erase _) ?_ _
          rintro rfl
          exact temporaryFree held

theorem performAll (key : ProfileKey) (steps : List SaveStep) :
    (directory.performAll (stem key) steps).1.Usable := by
  induction steps generalizing directory with
  | nil => exact usable
  | cons step steps induction =>
      rw [Directory.performAll]
      split
      next next performed => exact induction (usable.perform performed)
      next => exact usable

theorem delete (key : ProfileKey) : (directory.delete key).1.Usable := by
  unfold Directory.delete
  dsimp only
  split
  · split
    · exact usable
    · exact usable
    · exact ⟨rfl, usable.noFolder_erase _⟩
  · exact usable

/-- A save is carried out in full. -/
theorem save_eq {α : Type} [Scalar α] (checkpoint : Checkpoint α) :
    ∃ nodes, directory.save checkpoint =
        (directory.withNodes nodes, .ok ()) ∧
      ∀ name, nodes.find? name =
        if name = fileName (stem checkpoint.key) then
          some (nodeOf checkpoint)
        else if name = temporaryName (stem checkpoint.key) then none
        else directory.nodes.find? name :=
  Directory.save_eq checkpoint usable.reachable
    (usable.noFolder _ (reserved_fileName _))
    (usable.noFolder _ (reserved_temporaryName _))

end Usable

section Histories

variable {α : Type} [Scalar α]

/-- What a store does to its directory. -/
inductive Event (α : Type) where
  | save (checkpoint : Checkpoint α) (progress : Progress)
  | delete (key : ProfileKey)

/-- Whether a store is not stopped on the way. -/
def Event.completes : Event α → Bool
  | .save _ progress => progress.completes
  | .delete _ => true

def handle (directory : Directory) : Event α → Directory
  | .save checkpoint progress =>
      (directory.performAll (stem checkpoint.key)
        (progress.steps checkpoint.toJson.render)).1
  | .delete key => (directory.delete key).1

def handleAll (directory : Directory) (events : List (Event α)) :
    Directory :=
  events.foldl handle directory

theorem handleAll_nil (directory : Directory) :
    directory.handleAll ([] : List (Event α)) = directory := rfl

theorem handleAll_singleton (directory : Directory) (event : Event α) :
    directory.handleAll [event] = directory.handle event := rfl

variable {directory left right : Directory}

theorem Usable.handle (usable : directory.Usable) (event : Event α) :
    (directory.handle event).Usable := by
  cases event with
  | save checkpoint progress => exact usable.performAll _ _
  | delete key => exact usable.delete key

theorem Usable.handleAll (usable : directory.Usable)
    (events : List (Event α)) : (directory.handleAll events).Usable := by
  induction events generalizing directory with
  | nil => exact usable
  | cons event events induction => exact induction (usable.handle event)

theorem handle_of_completes {checkpoint : Checkpoint α}
    {progress : Progress} (completes : progress.completes = true)
    (directory : Directory) :
    directory.handle (.save checkpoint progress) =
      (directory.save checkpoint).1 := by
  rw [handle, Progress.steps_of_completes completes, save]

/-- What is not interrupted has the same effect on the same checkpoint
files. -/
theorem SameFiles.handle (same : left.SameFiles right)
    (leftUsable : left.Usable) (rightUsable : right.Usable)
    {event : Event α} (completes : event.completes = true) :
    (left.handle event).SameFiles (right.handle event) := by
  cases event with
  | save checkpoint progress =>
      obtain ⟨leftNodes, leftSaved, leftFound⟩ :=
        leftUsable.save_eq checkpoint
      obtain ⟨rightNodes, rightSaved, rightFound⟩ :=
        rightUsable.save_eq checkpoint
      rw [handle_of_completes completes, handle_of_completes completes,
        leftSaved, rightSaved]
      refine ⟨rfl, fun name extended => ?_⟩
      change leftNodes.find? name = rightNodes.find? name
      rw [leftFound, rightFound, same.file name extended]
  | delete key =>
      have file := same.file _ (extension?_fileName key)
      simp only [Directory.handle, delete, leftUsable.reachable,
        rightUsable.reachable, if_true, file]
      split
      · exact same
      · exact same
      · refine ⟨rfl, fun name extended => ?_⟩
        change (left.nodes.erase _).find? name =
          (right.nodes.erase _).find? name
        rw [SortedMap.find?_erase, SortedMap.find?_erase,
          same.file name extended]

/-- An interrupted save leaves all checkpoint files as they are. -/
theorem sameFiles_of_interrupted {event : Event α}
    (interrupted : event.completes = false) (directory : Directory) :
    (directory.handle event).SameFiles directory := by
  cases event with
  | save checkpoint progress =>
      cases reachable : directory.reachable with
      | true =>
          exact sameFiles_performAll
            (Progress.rename_not_mem interrupted _) reachable
      | false =>
          rw [handle, performAll_of_unreachable reachable]
          exact .refl directory
  | delete key => cases interrupted

/-- So does a save that fails, in whatever directory. -/
theorem sameFiles_of_failed {checkpoint : Checkpoint α} {fault : Fault}
    (failed : (directory.save checkpoint).2 = .error fault) :
    (directory.save checkpoint).1.SameFiles directory := by
  cases reachable : directory.reachable with
  | true =>
      refine (save_or_sameFiles _ reachable).resolve_right fun saved => ?_
      cases failed.symm.trans saved
  | false =>
      have unchanged : (directory.save checkpoint).1 = directory :=
        performAll_of_unreachable reachable (.after 5)
      rw [unchanged]
      exact .refl directory

/-- Interrupted saves can be left out of a history. -/
theorem sameFiles_handleAll (same : left.SameFiles right)
    (leftUsable : left.Usable) (rightUsable : right.Usable)
    (events : List (Event α)) :
    (left.handleAll events).SameFiles
      (right.handleAll (events.filter Event.completes)) := by
  induction events generalizing left right with
  | nil => exact same
  | cons event events induction =>
      cases completes : event.completes with
      | true =>
          rw [List.filter_cons_of_pos completes]
          exact induction (same.handle leftUsable rightUsable completes)
            (leftUsable.handle event) (rightUsable.handle event)
      | false =>
          rw [List.filter_cons_of_neg (by simp [completes])]
          exact induction
            ((sameFiles_of_interrupted completes left).trans same)
            (leftUsable.handle event) rightUsable

theorem Usable.saved_of_completes (usable : directory.Usable)
    (checkpoint : Checkpoint α) {progress : Progress}
    (completes : progress.completes = true) :
    directory.save checkpoint =
      (directory.handle (.save checkpoint progress), .ok ()) := by
  obtain ⟨nodes, saved, -⟩ := usable.save_eq checkpoint
  rw [handle_of_completes completes, saved]

/-- A complete save leaves the files of other checkpoints as they are. -/
theorem Usable.readFile_of_saved (usable : directory.Usable)
    {next : Directory} {checkpoint : Checkpoint α}
    (saved : directory.save checkpoint = (next, .ok ())) {name : String}
    (extended : extension? name = some "json")
    (other : name ≠ fileName (stem checkpoint.key)) :
    next.readFile (α := α) name = directory.readFile name := by
  obtain ⟨nodes, written, found⟩ :=
    usable.save_eq checkpoint
  rw [written] at saved
  cases saved
  refine readFile_congr usable.reachable.symm ?_
  change nodes.find? name = _
  rw [found, if_neg other, if_neg (ne_temporaryName extended)]

/-- Wherever a save is interrupted, and if it fails, all checkpoints are
loaded and listed as before.  A complete one has changed only its own
checkpoint.  What was interrupted earlier makes no difference, and all later
saves are carried out. -/
theorem interrupted_save [DecimalScalar α] {start : Directory}
    (begun : start.Usable) (events : List (Event α))
    (checkpoint : Checkpoint α) (progress : Progress) :
    let before := start.handleAll events
    let after := before.handle (.save checkpoint progress)
    before.AnswersAs α (start.handleAll (events.filter Event.completes)) ∧
    (progress.completes = false → after.AnswersAs α before) ∧
    (progress.completes = true →
      before.save checkpoint = (after, .ok ()) ∧
        (checkpoint.Numbered → after.Tells checkpoint) ∧
        (∀ key, stem key ≠ stem checkpoint.key →
          after.load (α := α) key = before.load key) ∧
        ∀ name, name ≠ fileName (stem checkpoint.key) →
          after.fileInfo? α name = before.fileInfo? α name) ∧
    (∀ (later : List (Event α)) (next : Checkpoint α), ∃ last,
      (after.handleAll later).save next = (last, .ok ()) ∧
        (next.Numbered → last.Tells next)) ∧
    ∀ (directory : Directory) fault,
      (directory.save checkpoint).2 = .error fault →
        (directory.save checkpoint).1.AnswersAs α directory := by
  intro before after
  have usable : before.Usable := begun.handleAll events
  have settled := sameFiles_handleAll (.refl start) begun begun events
  refine ⟨settled.answersAs α, ?_, ?_, ?_, ?_⟩
  · intro interrupted
    have stopped : (Event.save checkpoint progress).completes = false :=
      interrupted
    exact (sameFiles_of_interrupted stopped before).answersAs α
  · intro completes
    have saved : before.save checkpoint = (after, .ok ()) :=
      usable.saved_of_completes checkpoint completes
    refine ⟨saved, (contains_of_saved saved).tells, ?_, ?_⟩
    · intro key different
      exact load_congr (usable.readFile_of_saved saved
        (extension?_fileName key) fun same =>
          different (fileName_injective same))
    · intro name different
      exact fileInfo?_congr fun extended =>
        usable.readFile_of_saved saved extended different
  · intro later next
    have reached : (after.handleAll later).Usable :=
      (usable.handle (.save checkpoint progress)).handleAll later
    obtain ⟨nodes, saved, -⟩ := reached.save_eq next
    exact ⟨_, saved, (contains_of_saved saved).tells⟩
  · intro directory fault failed
    exact (sameFiles_of_failed failed).answersAs α

end Histories

open StoreCall (observed)

/-- An estimator that has got two samples whose spread overflows. -/
def overflowed : Estimator Float :=
  ((Estimator.forResource .cpu []).ingest ⟨⟨40, 0⟩, 1e200⟩).ingest
    ⟨⟨50, 0⟩, 0⟩

def overflowedCheckpoint : Checkpoint Float :=
  ⟨StoreCall.metricsKey "web", ⟨200, 0⟩,
    SortedMap.ofList [("app", SortedMap.ofList [(.cpu, overflowed.state)])]⟩

theorem numbered_overflowed : overflowedCheckpoint.Numbered := by
  have numbered : overflowed.Numbered :=
    ((Estimator.numbered_forResource _ _).ingest _).ingest _
  intro index member
  obtain ⟨state, listed, held⟩ := List.mem_flatMap.1 member
  obtain rfl : state = overflowed.state := List.mem_singleton.1 listed
  obtain ⟨bucket, counted, rfl⟩ := List.mem_map.1 held
  exact numbered.state bucket counted

/-- A save that is not interrupted can put an unreadable checkpoint in the
place of a readable one. -/
theorem readable_replaced :
    let start : Directory := ⟨"/checkpoints", .absent⟩
    let before := start.handle (.save (observed "web" 100) (.after 5))
    let after := before.handle (.save overflowedCheckpoint (.after 5))
    before.load overflowedCheckpoint.key =
        .ok (some (observed "web" 100)) ∧
      before.save overflowedCheckpoint = (after, .ok ()) ∧
      ∃ fault,
        after.load (α := Float) overflowedCheckpoint.key = .error fault := by
  intro start before after
  have begun : start.Usable := .new "/checkpoints"
  have first : start.save (observed "web" 100) = (before, .ok ()) :=
    begun.saved_of_completes (observed "web" 100) rfl
  have reached : before.Usable :=
    begun.handle (.save (observed "web" 100) (.after 5))
  have second : before.save overflowedCheckpoint = (after, .ok ()) :=
    reached.saved_of_completes overflowedCheckpoint rfl
  have legible : (observed "web" 100).Legible := by decide +kernel
  have infinite : ¬ overflowedCheckpoint.Finite := by decide +kernel
  have lost :=
    (contains_of_saved second).withholds numbered_overflowed infinite
  exact ⟨((contains_of_saved first).returns legible).loaded, second, _,
    lost.unloaded⟩

/-- A temporary file that is left over is not noticed. -/
theorem left_over_unnoticed :
    let start : Directory := ⟨"/checkpoints", .absent⟩
    let first : Event Float := .save (observed "web" 100) (.after 5)
    let before := start.handleAll [first]
    let after := before.handle
      (.save (observed "web" 200) (.writing "\x7b\"key\":"))
    start.Usable ∧
      after.load (observed "web" 100).key =
        .ok (some (observed "web" 100)) ∧
      ∃ last, after.save (observed "web" 300) = (last, .ok ()) ∧
        last.Returns (observed "web" 300) := by
  intro start first before after
  have begun : start.Usable := .new "/checkpoints"
  have legible : ∀ seconds ∈ [100, 300],
      (observed "web" seconds).Legible := by decide +kernel
  obtain ⟨-, interrupted, -, later, -⟩ := interrupted_save begun [first]
    (observed "web" 200) (.writing "\x7b\"key\":")
  have saved : start.save (observed "web" 100) =
      (start.handle first, .ok ()) :=
    begun.saved_of_completes (observed "web" 100) rfl
  rw [← handleAll_singleton] at saved
  have returns := (contains_of_saved saved).returns
    (legible 100 (by simp))
  obtain ⟨last, replaced, -⟩ := later [] (observed "web" 300)
  rw [handleAll_nil] at replaced
  refine ⟨begun, ?_, last, replaced, (contains_of_saved replaced).returns
    (legible 300 (by simp))⟩
  exact ((interrupted rfl).load _).trans returns.loaded

end UsageForecast.Directory
