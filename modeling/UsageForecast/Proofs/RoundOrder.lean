import UsageForecast.Proofs.RoundEffect
import UsageForecast.Proofs.SeparateStores

/-!
# The order of a round

A cycle looks at its own profiler, at inputs that no cycle changes, and at how
the save of its own checkpoint ends.  What it writes is under its own key, and
what it counts is added up.  So a round leaves the same behind in whatever
order the profiles take their turns.
-/

namespace UsageForecast

namespace Telemetry

/-- Fixed numbers are added to some counters. -/
def Adds (change : Telemetry → Telemetry) : Prop :=
  ∃ cycles samples cycleErrors malformedValues checkpointErrors,
    ∀ telemetry : Telemetry, change telemetry =
      { telemetry with
        cycles := telemetry.cycles + cycles
        samples := telemetry.samples + samples
        cycleErrors := telemetry.cycleErrors + cycleErrors
        malformedValues := telemetry.malformedValues + malformedValues
        checkpointErrors := telemetry.checkpointErrors + checkpointErrors }

namespace Adds

variable {first second : Telemetry → Telemetry}

theorem comp (later : Adds second) (earlier : Adds first) :
    Adds fun telemetry => second (first telemetry) := by
  obtain ⟨a, b, c, d, e, added⟩ := earlier
  obtain ⟨a', b', c', d', e', more⟩ := later
  refine ⟨a + a', b + b', c + c', d + d', e + e', fun telemetry => ?_⟩
  simp only [added, more, Nat.add_assoc]

theorem comm (left : Adds first) (right : Adds second)
    (telemetry : Telemetry) :
    first (second telemetry) = second (first telemetry) := by
  obtain ⟨a, b, c, d, e, added⟩ := left
  obtain ⟨a', b', c', d', e', more⟩ := right
  simp only [added, more, Nat.add_right_comm]

theorem id : Adds fun telemetry => telemetry := ⟨0, 0, 0, 0, 0, fun _ => rfl⟩

theorem addCycle : Adds Telemetry.addCycle := ⟨1, 0, 0, 0, 0, fun _ => rfl⟩

theorem addSamples (count : Nat) : Adds (Telemetry.addSamples · count) :=
  ⟨0, count, 0, 0, 0, fun _ => rfl⟩

theorem addCycleError : Adds Telemetry.addCycleError :=
  ⟨0, 0, 1, 0, 0, fun _ => rfl⟩

theorem addMalformedValues (count : Nat) :
    Adds (Telemetry.addMalformedValues · count) :=
  ⟨0, 0, 0, count, 0, fun _ => rfl⟩

theorem addCheckpointError : Adds Telemetry.addCheckpointError :=
  ⟨0, 0, 0, 0, 1, fun _ => rfl⟩

end Adds

end Telemetry

namespace CheckpointStore

variable {σ α : Type} [CheckpointStore σ α]

/-- The store after the checkpoint of a cycle, if it has written one. -/
def keep (store : σ) : Option (Checkpoint α) → σ
  | some checkpoint => (save store checkpoint).1
  | none => store

/-- Every save of a checkpoint ends in the same way in both stores. -/
def SameOutcome (written : Option (Checkpoint α)) (store other : σ) : Prop :=
  ∀ checkpoint, written = some checkpoint →
    (save store checkpoint).2 = (save other checkpoint).2

theorem keep_comm [SeparateStore σ α] {key other : ProfileKey}
    (apart : LawfulStore.Apart σ α key other) (different : key ≠ other)
    {first second : Option (Checkpoint α)}
    (firstKey : ∀ checkpoint, first = some checkpoint →
      checkpoint.key = key)
    (secondKey : ∀ checkpoint, second = some checkpoint →
      checkpoint.key = other) (store : σ) :
    keep (keep store first) second = keep (keep store second) first ∧
      SameOutcome second store (keep store first) := by
  cases first with
  | none => exact ⟨rfl, fun _ _ => rfl⟩
  | some checkpoint =>
      cases second with
      | none => exact ⟨rfl, nofun⟩
      | some another =>
          obtain rfl := firstKey checkpoint rfl
          obtain rfl := secondKey another rfl
          obtain ⟨final, outcome⟩ :=
            SeparateStore.save_comm store apart different
          refine ⟨final, ?_⟩
          rintro _ ⟨⟩
          exact outcome.symm

end CheckpointStore

namespace Profiler

variable {σ α : Type} [Analytic α] [CheckpointStore σ α]
  (settings : Settings α) (resolver : Resolver) (repository : Repository α)
  (now : Instant) (profiler : Profiler α)

theorem store_profile (store : σ) :
    (profiler.profile settings resolver repository now store).store =
      CheckpointStore.keep store
        (profiler.written? settings resolver repository now) := by
  rw [(profile_effect settings resolver repository now profiler store).2]
  cases profiler.written? settings resolver repository now <;> rfl

/-- Two cycles leave the same behind, but for the store. -/
structure Cycle.Alike (left right : Cycle σ α) : Prop where
  profiler : left.profiler = right.profiler
  outcome : left.outcome = right.outcome
  malformed : left.malformed = right.malformed
  unsaved : left.unsaved = right.unsaved

/-- A cycle learns nothing from a store but how its own save ends. -/
theorem alike_of_sameOutcome {store other : σ}
    (same : CheckpointStore.SameOutcome
      (profiler.written? settings resolver repository now) store other) :
    (profiler.profile settings resolver repository now other).Alike
      (profiler.profile settings resolver repository now store) := by
  cases resolved : resolver.pods profiler.key.target with
  | error failure =>
      simp only [profile_of_unresolved settings repository now _ resolved]
      exact ⟨rfl, rfl, rfl, rfl⟩
  | ok pods =>
      simp only [profile_of_resolved settings repository now _ resolved,
        Observation.finish]
      split
      next reportable =>
        have written : profiler.written? settings resolver repository now =
            some ((profiler.advance settings resolver repository now
              pods).checkpoint now) := by
          simp only [written?, resolved, if_pos reportable]
        rw [same _ written]
        exact ⟨rfl, rfl, rfl, rfl⟩
      next => exact ⟨rfl, rfl, rfl, rfl⟩

end Profiler

namespace Manager

variable {σ α : Type}

theorem adds_count (cycle : Profiler.Cycle σ α) :
    Telemetry.Adds fun telemetry =>
      countOutcome (countCycle telemetry cycle) cycle.outcome := by
  have unsaved : Telemetry.Adds fun telemetry =>
      if cycle.unsaved then telemetry.addCheckpointError
      else telemetry := by
    cases cycle.unsaved
    · exact .id
    · exact .addCheckpointError
  have counted : Telemetry.Adds fun telemetry =>
      countCycle telemetry cycle := by
    have before := unsaved.comp (.addMalformedValues cycle.malformed)
    unfold countCycle
    cases cycle.outcome with
    | completed report => exact (Telemetry.Adds.addSamples _).comp before
    | skipped reason => exact before
    | failed failure => exact before
    | crashed crash => exact before
  cases cycle.outcome with
  | completed report => exact Telemetry.Adds.addCycle.comp counted
  | skipped reason => exact Telemetry.Adds.addCycle.comp counted
  | failed failure =>
      exact Telemetry.Adds.addCycleError.comp
        (Telemetry.Adds.addCycle.comp counted)
  | crashed crash => exact Telemetry.Adds.addCycleError.comp counted

theorem Summary.add_comm (summary : Summary)
    (first second : Profiler.Outcome) :
    (summary.add first).add second = (summary.add second).add first := by
  cases first <;> cases second <;> rfl

theorem countCycle_eq {left right : Profiler.Cycle σ α}
    (alike : left.Alike right) (telemetry : Telemetry) :
    countCycle telemetry left = countCycle telemetry right := by
  simp only [countCycle, alike.malformed, alike.unsaved, alike.outcome]

/-- Two cycles of different keys count for the same in either order. -/
theorem Round.add_comm (round : Round σ α) {key other : ProfileKey}
    (different : key ≠ other)
    {first again second last : Profiler.Cycle σ α}
    (firstAlike : again.Alike first) (secondAlike : last.Alike second)
    (stores : last.store = again.store) :
    (round.add key first).add other last =
      (round.add other second).add key again := by
  simp only [Round.add, firstAlike.profiler, secondAlike.profiler,
    firstAlike.outcome, secondAlike.outcome, countCycle_eq firstAlike,
    countCycle_eq secondAlike, Round.mk.injEq, Manager.mk.injEq, and_true]
  refine ⟨⟨SortedMap.insert_comm _ different _ _, ?_⟩, stores,
    (adds_count second).comm (adds_count first) round.telemetry,
    Summary.add_comm _ _ _⟩
  cases keepsResult first.outcome
  · rfl
  · cases keepsResult second.outcome
    · rfl
    · exact SortedMap.insert_comm _ different _ _

section Turns

variable [Analytic α] [CheckpointStore σ α]
  (settings : Profiler.Settings α) (resolver : Resolver)
  (repository : Repository α) (clock : ProfileKey → Instant)

/-- A profile takes its turn, at its own time. -/
def Round.turn (round : Round σ α) (key : ProfileKey) : Round σ α :=
  round.step settings resolver repository (clock key) key

/-- A round in which profiles take turns in some order. -/
def runInOrder (manager : Manager α) (store : σ) (telemetry : Telemetry)
    (order : List ProfileKey) : Round σ α :=
  order.foldl (Round.turn settings resolver repository clock)
    ⟨manager, store, telemetry, ⟨manager.size, 0, 0, 0⟩⟩

variable {settings resolver repository clock} {round : Round σ α}
  {key other : ProfileKey}

theorem Round.turn_of_absent
    (absent : round.manager.registry.find? key = none) :
    round.turn settings resolver repository clock key = round := by
  simp only [turn, step, absent]

theorem Round.turn_of_known {profiler : Profiler α}
    (known : round.manager.registry.find? key = some profiler) :
    round.turn settings resolver repository clock key =
      round.add key (profiler.profile settings resolver repository
        (clock key) round.store) := by
  simp only [turn, step, known]

theorem Round.find?_turn_of_ne (different : other ≠ key) :
    (round.turn settings resolver repository clock
        key).manager.registry.find? other =
      round.manager.registry.find? other := by
  rw [turn, find?_step, if_neg different]

/-- Two turns can be taken in either order. -/
theorem Round.turn_comm [SeparateStore σ α] (sound : round.manager.Sound)
    (apart : LawfulStore.Apart σ α key other)
    (reverse : LawfulStore.Apart σ α other key) (different : key ≠ other) :
    (round.turn settings resolver repository clock key).turn settings
        resolver repository clock other =
      (round.turn settings resolver repository clock other).turn settings
        resolver repository clock key := by
  have kept {turned looked : ProfileKey} (different : looked ≠ turned)
      {found : Option (Profiler α)}
      (before : round.manager.registry.find? looked = found) :
      (round.turn settings resolver repository clock
        turned).manager.registry.find? looked = found :=
    (find?_turn_of_ne different).trans before
  cases first : round.manager.registry.find? key with
  | none => rw [turn_of_absent first, turn_of_absent (kept different first)]
  | some profiler =>
      cases second : round.manager.registry.find? other with
      | none =>
          rw [turn_of_absent second,
            turn_of_absent (kept (Ne.symm different) second)]
      | some another =>
          rw [turn_of_known (kept (Ne.symm different) second),
            turn_of_known (kept different first), turn_of_known first,
            turn_of_known second]
          have firstKey (checkpoint : Checkpoint α)
              (written : profiler.written? settings resolver repository
                (clock key) = some checkpoint) : checkpoint.key = key :=
            (Profiler.key_of_written written).trans
              (sound.profilers key profiler first).key_eq
          have secondKey (checkpoint : Checkpoint α)
              (written : another.written? settings resolver repository
                (clock other) = some checkpoint) :
              checkpoint.key = other :=
            (Profiler.key_of_written written).trans
              (sound.profilers other another second).key_eq
          obtain ⟨stores, secondSame⟩ := CheckpointStore.keep_comm apart
            different firstKey secondKey round.store
          obtain ⟨-, firstSame⟩ := CheckpointStore.keep_comm reverse
            (Ne.symm different) secondKey firstKey round.store
          rw [← Profiler.store_profile] at secondSame firstSame
          refine round.add_comm different
            (Profiler.alike_of_sameOutcome _ _ _ _ _ firstSame)
            (Profiler.alike_of_sameOutcome _ _ _ _ _ secondSame) ?_
          simp only [Profiler.store_profile, Round.add]
          exact stores

variable [OrderedScalar α]

theorem Round.sound_turn (sound : round.manager.Sound) (key : ProfileKey) :
    (round.turn settings resolver repository clock key).manager.Sound :=
  sound.step key

/-- Profiles can take their turns in any order. -/
theorem foldl_turn_of_perm [SeparateStore σ α] {left right : List ProfileKey}
    (same : left.Perm right) (sound : round.manager.Sound)
    (apart : ∀ key ∈ left, ∀ other ∈ left,
      LawfulStore.Apart σ α key other) :
    left.foldl (Round.turn settings resolver repository clock) round =
      right.foldl (Round.turn settings resolver repository clock) round := by
  induction same generalizing round with
  | nil => rfl
  | cons key _ induction =>
      refine induction (Round.sound_turn sound key) ?_
      intro first listed second member
      exact apart first (List.mem_cons_of_mem _ listed) second
        (List.mem_cons_of_mem _ member)
  | swap key other rest =>
      rw [List.foldl_cons, List.foldl_cons, List.foldl_cons, List.foldl_cons]
      by_cases same : key = other
      · rw [same]
      · rw [Round.turn_comm sound (apart other (by simp) key (by simp))
          (apart key (by simp) other (by simp)) (Ne.symm same)]
  | trans before _ first second =>
      rw [first sound apart]
      refine second sound fun key listed other member => ?_
      exact apart key (before.mem_iff.2 listed) other
        (before.mem_iff.2 member)

end Turns

end Manager

end UsageForecast
