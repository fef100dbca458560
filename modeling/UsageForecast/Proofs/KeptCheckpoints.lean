import UsageForecast.Proofs.EngineChange
import UsageForecast.Proofs.GarbageCollection

/-!
# Checkpoints of unregistered profiles

Along a run whose checkpoints can be stored, each key in use keeps a place of
its own in the store.  The checkpoint of a profile that is not registered
stays as it is until a collection deletes it.
-/

namespace UsageForecast.Engine

variable {σ α : Type}

/-- A collection within the grace period spares what was saved at a time; no
other operation deletes anything. -/
def Operation.spares (grace : Nat) (saved : Instant) : Operation α → Bool
  | .collectGarbage now =>
      compare saved (Manager.periodStart now
        (Instant.effectivePeriod grace)) == .gt
  | _ => true

variable [Analytic α]

/-- What an operation writes for a key. -/
def writes? (engine : Engine σ α) (key : ProfileKey) :
    Operation α → Option (Checkpoint α)
  | .runRound now hashes => Manager.written? engine.settings.profiler
      engine.resolver (engine.repository.seeded hashes) now engine.manager key
  | _ => none

variable [CheckpointStore σ α] [OrderedScalar α] [LawfulStore σ α]
  {engine next : Engine σ α} {places : List ProfileKey}
  {map : MemoryStore α}

open Manager (Housed)

omit [Analytic α] in
theorem filter_spares_of_quiet {operation : Operation α}
    (quiet : operation.Quiet) (grace : Nat)
    (held : Option (Checkpoint α)) :
    held.filter (fun checkpoint =>
      operation.spares grace checkpoint.savedAt) = held := by
  have spares (saved : Instant) : operation.spares grace saved = true := by
    cases operation with
    | collectGarbage now => exact quiet.elim
    | _ => rfl
  cases held with
  | none => rfl
  | some checkpoint => rw [Option.filter_some, if_pos (spares _)]

omit [OrderedScalar α] in
theorem housed_of_same_store
    (housed : Housed places engine.manager engine.store map)
    (sound : next.manager.Sound) (store : next.store = engine.store)
    (registered : next.manager.keys ⊆ places) :
    Housed places next.manager next.store map where
  sound := sound
  mirrors := store ▸ housed.mirrors
  apart := housed.apart
  registered := registered
  held := housed.held

/-- What becomes of the checkpoints of unregistered profiles. -/
theorem housed_carryOut
    (housed : Housed places engine.manager engine.store map)
    {operation : Operation α}
    (named : ∀ now key spec, operation = .register now key spec →
      key ∈ places)
    (storable : ∀ key checkpoint,
      engine.writes? key operation = some checkpoint →
        LawfulStore.Storable (σ := σ) checkpoint)
    (carried : engine.carryOut operation = .ok next) :
    ∃ after, Housed places next.manager next.store after ∧
      ∀ key, engine.manager.registry.find? key = none →
        after.find? key = (map.find? key).filter fun checkpoint =>
          operation.spares engine.settings.checkpointGrace
            checkpoint.savedAt := by
  have sound := sound_carryOut housed.sound carried
  have quietly (quiet : operation.Quiet)
      (store : next.store = engine.store)
      (registered : next.manager.keys ⊆ places) :
      ∃ after, Housed places next.manager next.store after ∧
        ∀ key, engine.manager.registry.find? key = none →
          after.find? key = (map.find? key).filter fun checkpoint =>
            operation.spares engine.settings.checkpointGrace
              checkpoint.savedAt :=
    ⟨map, housed_of_same_store housed sound store registered,
      fun _ _ => (filter_spares_of_quiet quiet _ _).symm⟩
  obtain ⟨-, change⟩ := change_of_carryOut carried
  cases change with
  | nothing quiet manager store =>
      refine quietly quiet store ?_
      rw [manager]
      exact housed.registered
  | started manager store =>
      refine quietly trivial store ?_
      rw [manager]
      exact housed.registered
  | registered registered manager store =>
      obtain ⟨-, profiler, installed⟩ :=
        Manager.install_of_register registered
      refine quietly trivial store ?_
      rw [manager, installed]
      intro key listed
      rcases SortedMap.mem_keys_insert_iff.1 listed with rfl | earlier
      · exact named _ _ _ rfl
      · exact housed.registered earlier
  | unregistered removed store =>
      refine quietly trivial store ?_
      rw [Manager.eq_erase_of_unregister removed]
      intro key listed
      exact housed.registered (SortedMap.mem_keys_erase_iff.1 listed).2
  | ran now hashes manager store =>
      have writes : ∀ key checkpoint,
          Manager.written? engine.settings.profiler engine.resolver
              (engine.repository.seeded hashes) now engine.manager key =
                some checkpoint →
            LawfulStore.Storable (σ := σ) checkpoint := storable
      obtain ⟨after, ended, effect⟩ :=
        housed.runRound writes engine.telemetry
      rw [manager, store]
      refine ⟨after, ended, fun key unknown => ?_⟩
      rw [effect, Manager.written?, unknown, Option.bind_none,
        Option.none_or]
      cases map.find? key <;> rfl
  | @collected now count manager collected =>
      obtain ⟨store, others, result, continued, -⟩ :=
        Manager.collectGarbage_eq engine.manager now housed.mirrors
          engine.settings.checkpointGrace
      have mirrors : LawfulStore.Mirrors next.store
          (engine.manager.spared now (Instant.effectivePeriod
            engine.settings.checkpointGrace) map) := by
        rw [result] at collected
        split at collected
        · cases collected
          exact continued
        · cases collected
      refine ⟨_, {
        sound
        mirrors
        apart := housed.apart
        registered := by
          rw [manager]
          exact housed.registered
        held := ?_ }, fun key unknown => ?_⟩
      · intro key listed
        apply housed.held
        rw [SortedMap.mem_keys_iff, Manager.find?_spared] at listed
        rw [SortedMap.mem_keys_iff]
        exact Option.isSome_of_isSome_filter _ _ listed
      · rw [Manager.find?_spared]
        cases found : map.find? key with
        | none => rfl
        | some checkpoint =>
            have named : checkpoint.info.key = key :=
              LawfulStore.keyed housed.mirrors key checkpoint found
            have unregistered : engine.manager.isRegistered
                checkpoint.info.key = false := by
              rw [Manager.isRegistered, SortedMap.contains, named, unknown]
              rfl
            rw [Option.filter_some, Option.filter_some, Manager.spares,
              unregistered, Bool.false_or]
            rfl

/-- Whatever a run registers has a place, and whatever it writes can be
kept. -/
def Orderly (places : List ProfileKey) (engine : Engine σ α) :
    List (Operation α) → Prop
  | [] => True
  | operation :: rest =>
      (∀ now key spec, operation = .register now key spec →
        key ∈ places) ∧
      (∀ key checkpoint, engine.writes? key operation = some checkpoint →
        LawfulStore.Storable (σ := σ) checkpoint) ∧
      ∀ next, engine.carryOut operation = .ok next →
        Orderly places next rest

omit [OrderedScalar α] in
/-- In a store that can keep every checkpoint, runs are in order. -/
theorem orderly_of_storable {operations : List (Operation α)}
    (storable : ∀ checkpoint : Checkpoint α,
      LawfulStore.Storable (σ := σ) checkpoint)
    (named : ∀ now key spec, .register now key spec ∈ operations →
      key ∈ places) : engine.Orderly places operations := by
  induction operations generalizing engine with
  | nil => trivial
  | cons operation operations induction =>
      refine ⟨?_, fun _ checkpoint _ => storable checkpoint,
        fun next _ => induction ?_⟩
      · rintro now key spec rfl
        exact named now key spec List.mem_cons_self
      · intro now key spec member
        exact named now key spec (List.mem_cons_of_mem _ member)

/-- A run that begins in order stays so. -/
theorem housed_run (housed : Housed places engine.manager engine.store map)
    {first rest : List (Operation α)}
    (orderly : engine.Orderly places (first ++ rest))
    (ran : engine.run first = .ok next) :
    next.Orderly places rest ∧
      ∃ after, Housed places next.manager next.store after := by
  induction first generalizing engine map with
  | nil =>
      cases ran
      exact ⟨orderly, map, housed⟩
  | cons operation first induction =>
      obtain ⟨named, storable, rest⟩ := orderly
      obtain ⟨between, carried, ran⟩ := run_cons_eq_ok_iff.1 ran
      obtain ⟨after, continued, -⟩ :=
        housed_carryOut housed named storable carried
      exact induction continued (rest between carried) ran

/-- A checkpoint outlasts a run in which its profile is not registered if
each collection spares it. -/
theorem kept_run (housed : Housed places engine.manager engine.store map)
    {operations : List (Operation α)}
    (orderly : engine.Orderly places operations)
    (ran : engine.run operations = .ok next) {key : ProfileKey}
    (absent : ∀ now spec, .register now key spec ∉ operations)
    (unknown : engine.manager.registry.find? key = none) :
    next.manager.registry.find? key = none ∧
      ∃ after, Housed places next.manager next.store after ∧
        after.find? key = (map.find? key).filter fun checkpoint =>
          operations.all fun operation =>
            operation.spares engine.settings.checkpointGrace
              checkpoint.savedAt := by
  induction operations generalizing engine map with
  | nil =>
      cases ran
      refine ⟨unknown, map, housed, ?_⟩
      cases map.find? key <;> rfl
  | cons operation operations induction =>
      obtain ⟨named, storable, rest⟩ := orderly
      obtain ⟨between, carried, ran⟩ := run_cons_eq_ok_iff.1 ran
      obtain ⟨after, continued, effect⟩ :=
        housed_carryOut housed named storable carried
      have settings := (change_of_carryOut carried).1.settings
      have still : between.manager.registry.find? key = none :=
        unregistered_of_carryOut
          (fun now spec same => absent now spec (by simp [same])) unknown
          carried
      obtain ⟨ended, last, final, kept⟩ := induction continued
        (rest between carried) ran
        (fun now spec member => absent now spec
          (List.mem_cons_of_mem _ member)) still
      refine ⟨ended, last, final, ?_⟩
      rw [kept, effect key unknown, Option.filter_filter, settings]
      congr 1

end UsageForecast.Engine
