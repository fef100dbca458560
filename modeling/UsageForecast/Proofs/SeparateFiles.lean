import UsageForecast.Proofs.InterruptedSave

/-!
# Keys with files of their own

A save looks at two files only, which are named by the stem of its key, and
leaves all others alone, whatever the directory holds and however the save
ends.  So calls on keys with different stems do not notice each other, and
their saves can be carried out in either order.
-/

namespace UsageForecast.Directory

theorem temporaryName_injective {left right : String}
    (same : temporaryName left = temporaryName right) : left = right := by
  have letters := congrArg String.toList same
  rw [temporaryName_toList, temporaryName_toList] at letters
  exact String.toList_inj.1 (List.append_cancel_right letters)

/-- The names of the files of a stem. -/
def Owns (stem name : String) : Prop :=
  name = fileName stem ∨ name = temporaryName stem

theorem Owns.stem_eq {left right name : String} (owned : Owns left name)
    (shared : Owns right name) : left = right := by
  rcases owned with rfl | rfl
  · rcases shared with same | same
    · exact fileName_injective same
    · exact absurd same (fileName_ne_temporaryName left right)
  · rcases shared with same | same
    · exact absurd same.symm (fileName_ne_temporaryName right left)
    · exact temporaryName_injective same

abbrev Nodes := SortedMap String Node

/-- Two maps hold the same under some names. -/
def Agree (names : String → Prop) (left right : Nodes) : Prop :=
  ∀ name, names name → left.find? name = right.find? name

section Saves

variable {stem : String} {left right : Nodes}

theorem Agree.insert {names : String → Prop}
    (same : Agree names left right) (name : String) (node : Node) :
    Agree names (left.insert name node) (right.insert name node) := by
  intro other named
  rw [SortedMap.find?_insert, SortedMap.find?_insert, same other named]

theorem Agree.erase {names : String → Prop}
    (same : Agree names left right) (name : String) :
    Agree names (left.erase name) (right.erase name) := by
  intro other named
  rw [SortedMap.find?_erase, SortedMap.find?_erase, same other named]

theorem agree_insert_of_owned {name : String} (owned : Owns stem name)
    (nodes : Nodes) (node : Node) :
    Agree (¬ Owns stem ·) (nodes.insert name node) nodes := by
  intro other outside
  refine SortedMap.find?_insert_of_ne _ _ ?_
  rintro rfl
  exact outside owned

theorem agree_erase_of_owned {name : String} (owned : Owns stem name)
    (nodes : Nodes) : Agree (¬ Owns stem ·) (nodes.erase name) nodes := by
  intro other outside
  rw [SortedMap.find?_erase, if_neg]
  rintro rfl
  exact outside owned

/-- Two maps that hold the same files of a stem have been changed in the same
way, each outside of these files not at all. -/
structure Together (stem : String) (left right : Nodes)
    (leftNext rightNext : Nodes) : Prop where
  owned : Agree (Owns stem) leftNext rightNext
  leftFrame : Agree (¬ Owns stem ·) leftNext left
  rightFrame : Agree (¬ Owns stem ·) rightNext right

theorem Together.refl (same : Agree (Owns stem) left right) :
    Together stem left right left right :=
  ⟨same, fun _ _ => rfl, fun _ _ => rfl⟩

theorem Together.trans {leftNext rightNext leftLast rightLast : Nodes}
    (first : Together stem left right leftNext rightNext)
    (second : Together stem leftNext rightNext leftLast rightLast) :
    Together stem left right leftLast rightLast where
  owned := second.owned
  leftFrame name outside :=
    (second.leftFrame name outside).trans (first.leftFrame name outside)
  rightFrame name outside :=
    (second.rightFrame name outside).trans (first.rightFrame name outside)

theorem Together.insert (same : Agree (Owns stem) left right) {name : String}
    (owned : Owns stem name) (node : Node) :
    Together stem left right (left.insert name node)
      (right.insert name node) :=
  ⟨same.insert name node, agree_insert_of_owned owned left node,
    agree_insert_of_owned owned right node⟩

theorem Together.erase (same : Agree (Owns stem) left right) {name : String}
    (owned : Owns stem name) :
    Together stem left right (left.erase name) (right.erase name) :=
  ⟨same.erase name, agree_erase_of_owned owned left,
    agree_erase_of_owned owned right⟩

/-- A step of a save goes by the files of its stem. -/
theorem perform_together (directory : Directory)
    (same : Agree (Owns stem) left right) (step : SaveStep) :
    (∃ fault, (directory.withNodes left).perform stem step = .error fault ∧
      (directory.withNodes right).perform stem step = .error fault) ∨
    ∃ leftNext rightNext,
      (directory.withNodes left).perform stem step =
          .ok (directory.withNodes leftNext) ∧
        (directory.withNodes right).perform stem step =
          .ok (directory.withNodes rightNext) ∧
        Together stem left right leftNext rightNext := by
  have file : left.find? (fileName stem) = right.find? (fileName stem) :=
    same _ (.inl rfl)
  have temporary : left.find? (temporaryName stem) =
      right.find? (temporaryName stem) := same _ (.inr rfl)
  have held (nodes : Nodes) : (directory.withNodes nodes).nodes = nodes := rfl
  cases step with
  | createDirectory => exact .inr ⟨left, right, rfl, rfl, .refl same⟩
  | openTemporary =>
      simp only [perform, held, temporary]
      split
      · exact .inl ⟨_, rfl, rfl⟩
      · exact .inr ⟨_, _, rfl, rfl, .insert same (.inr rfl) _⟩
  | write text =>
      simp only [perform, held, temporary]
      split
      · exact .inr ⟨_, _, rfl, rfl, .insert same (.inr rfl) _⟩
      · exact .inr ⟨left, right, rfl, rfl, .refl same⟩
  | sync => exact .inr ⟨left, right, rfl, rfl, .refl same⟩
  | rename =>
      simp only [perform, held, file, temporary]
      split
      · exact .inl ⟨_, rfl, rfl⟩
      · split
        · have erased : Together stem left right _ _ :=
            .erase same (.inr rfl)
          exact .inr ⟨_, _, rfl, rfl,
            erased.trans (.insert erased.owned (.inl rfl) _)⟩
        · exact .inr ⟨left, right, rfl, rfl, .refl same⟩

theorem performAll_together (directory : Directory)
    (same : Agree (Owns stem) left right) (steps : List SaveStep) :
    ∃ leftNext rightNext outcome,
      (directory.withNodes left).performAll stem steps =
          (directory.withNodes leftNext, outcome) ∧
        (directory.withNodes right).performAll stem steps =
          (directory.withNodes rightNext, outcome) ∧
        Together stem left right leftNext rightNext := by
  induction steps generalizing left right with
  | nil => exact ⟨left, right, .ok (), rfl, rfl, .refl same⟩
  | cons step steps induction =>
      simp only [performAll]
      rcases perform_together directory same step with
        ⟨fault, leftEnded, rightEnded⟩ |
        ⟨leftNext, rightNext, leftEnded, rightEnded, together⟩
      · rw [leftEnded, rightEnded]
        exact ⟨left, right, .error fault, rfl, rfl, .refl same⟩
      · rw [leftEnded, rightEnded]
        obtain ⟨leftLast, rightLast, outcome, leftRest, rightRest, later⟩ :=
          induction together.owned
        exact ⟨leftLast, rightLast, outcome, leftRest, rightRest,
          together.trans later⟩

end Saves

section Commutation

variable {α : Type} [Scalar α] (directory : Directory)
  (checkpoint : Checkpoint α)

theorem save_together {left right : Nodes}
    (same : Agree (Owns (stem checkpoint.key)) left right) :
    ∃ leftNext rightNext outcome,
      (directory.withNodes left).save checkpoint =
          (directory.withNodes leftNext, outcome) ∧
        (directory.withNodes right).save checkpoint =
          (directory.withNodes rightNext, outcome) ∧
        Together (stem checkpoint.key) left right leftNext rightNext :=
  performAll_together directory same _

variable {directory}

theorem save_withNodes (reachable : directory.reachable = true) :
    directory.save checkpoint =
      (directory.withNodes directory.nodes).save checkpoint := by
  rw [save, save, saveSteps,
    performAll_cons (perform_createDirectory _ reachable),
    performAll_cons (perform_createDirectory _ rfl)]
  rfl

theorem save_of_unreachable (unreachable : directory.reachable = false) :
    ∃ fault, directory.save checkpoint = (directory, .error fault) := by
  obtain ⟨path, content⟩ := directory
  cases content with
  | absent => cases unreachable
  | present nodes => cases unreachable
  | occupied => exact ⟨_, rfl⟩
  | unreachable => exact ⟨_, rfl⟩

/-- Two saves under different stems have the same effect and the same
outcomes in either order. -/
theorem save_comm {first second : Checkpoint α}
    (apart : stem first.key ≠ stem second.key) :
    ((directory.save first).1.save second).1 =
        ((directory.save second).1.save first).1 ∧
      ((directory.save first).1.save second).2 =
        (directory.save second).2 := by
  cases reachable : directory.reachable with
  | false =>
      obtain ⟨fault, failed⟩ := save_of_unreachable first reachable
      obtain ⟨other, refused⟩ := save_of_unreachable second reachable
      simp only [failed, refused, and_self]
  | true =>
      rw [save_withNodes first reachable, save_withNodes second reachable]
      have outside {left right : String} (different : left ≠ right)
          {name : String} (owned : Owns left name) : ¬ Owns right name :=
        fun shared => different (owned.stem_eq shared)
      have start : Agree (Owns (stem first.key)) directory.nodes
          directory.nodes := fun _ _ => rfl
      -- Each save meets the same files of its stem before and after the
      -- other one.
      obtain ⟨firstNodes, _, firstOutcome, firstEnded, -, firstDone⟩ :=
        save_together directory first start
      have afterFirst : Agree (Owns (stem second.key)) directory.nodes
          firstNodes := fun name owned =>
        (firstDone.leftFrame name (outside apart.symm owned)).symm
      obtain ⟨secondNodes, last, secondOutcome, secondEnded, lastEnded,
        secondDone⟩ := save_together directory second afterFirst
      have afterSecond : Agree (Owns (stem first.key)) directory.nodes
          secondNodes := fun name owned =>
        (secondDone.leftFrame name (outside apart owned)).symm
      obtain ⟨again, final, outcome, againEnded, finalEnded, finalDone⟩ :=
        save_together directory first afterSecond
      obtain ⟨sameNodes, rfl⟩ := Prod.mk.inj
        (firstEnded.symm.trans againEnded)
      obtain rfl : firstNodes = again := by
        simpa [withNodes] using sameNodes
      rw [firstEnded, secondEnded, lastEnded, finalEnded]
      refine ⟨congrArg directory.withNodes ?_, rfl⟩
      refine SortedMap.eq_of_find?_eq fun name => ?_
      by_cases owned : Owns (stem first.key) name
      · rw [secondDone.rightFrame name (outside apart owned),
          finalDone.owned name owned]
      · rw [finalDone.rightFrame name owned]
        by_cases other : Owns (stem second.key) name
        · exact (secondDone.owned name other).symm
        · rw [secondDone.rightFrame name other,
            secondDone.leftFrame name other]
          exact firstDone.leftFrame name owned

/-- What a call on a stem leaves alone. -/
structure Spares (names : String → Prop) (directory next : Directory) :
    Prop where
  path : next.path = directory.path
  reachable : next.reachable = directory.reachable
  node : ∀ name, names name →
    next.nodes.find? name = directory.nodes.find? name

theorem Spares.refl (names : String → Prop) (directory : Directory) :
    Spares names directory directory :=
  ⟨rfl, rfl, fun _ _ => rfl⟩

variable (directory) in
/-- A save leaves the files of other stems alone. -/
theorem spares_save :
    Spares (¬ Owns (stem checkpoint.key) ·) directory
      (directory.save checkpoint).1 := by
  cases reachable : directory.reachable with
  | false =>
      obtain ⟨fault, failed⟩ := save_of_unreachable checkpoint reachable
      rw [failed]
      exact .refl _ directory
  | true =>
      have start : Agree (Owns (stem checkpoint.key)) directory.nodes
          directory.nodes := fun _ _ => rfl
      obtain ⟨nodes, _, outcome, ended, -, saved⟩ :=
        save_together directory checkpoint start
      rw [save_withNodes checkpoint reachable, ended]
      exact ⟨rfl, reachable.symm, saved.leftFrame⟩

variable (directory) in
/-- A deletion leaves all files but one alone. -/
theorem spares_delete (key : ProfileKey) :
    Spares (· ≠ fileName (stem key)) directory (directory.delete key).1 := by
  unfold delete
  dsimp only
  split
  next reachable =>
    split
    · exact .refl _ directory
    · exact .refl _ directory
    · refine ⟨rfl, reachable.symm, fun name outside => ?_⟩
      exact (SortedMap.find?_erase _ _ _).trans (if_neg outside)
  next => exact .refl _ directory

theorem Spares.load_eq {names : String → Prop} {next : Directory}
    (spares : Spares names directory next) {key : ProfileKey}
    (named : names (fileName (stem key))) :
    next.load (α := α) key = directory.load key :=
  load_congr (readFile_congr spares.reachable (spares.node _ named))

theorem load_delete_of_ne {key other : ProfileKey}
    (apart : stem key ≠ stem other) :
    (directory.delete key).1.load (α := α) other = directory.load other :=
  (spares_delete directory key).load_eq
    fun same => apart (fileName_injective same).symm

end Commutation

end UsageForecast.Directory
