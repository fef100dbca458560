import UsageForecast.Proofs.KeptCheckpoints
import UsageForecast.Proofs.RestoredResult

/-!
# Profiles that are registered again

After a completed cycle a profile can be registered again with any valid spec
of its key, and publishes what it would publish with that spec if it had never
been stopped.  So with the spec that it had it publishes its last result once
more, unless a collection has deleted its checkpoint in between.
-/

namespace UsageForecast

namespace Profiler

variable {σ α : Type} [Analytic α] [CheckpointStore σ α]
  {settings : Settings α} {resolver : Resolver}
  {repository : Repository α} {now : Instant} {profiler : Profiler α}
  {store : σ}

/-- What a completed cycle leaves behind has been saved, unless the cycle
says that it has not. -/
theorem save_of_samples {samples : Nat}
    (completed : (profiler.profile settings resolver repository now
      store).samples? = some samples)
    (kept : (profiler.profile settings resolver repository now
      store).unsaved = false) :
    let cycle := profiler.profile settings resolver repository now store
    CheckpointStore.save store (cycle.profiler.checkpoint now) =
      (cycle.store, .ok ()) := by
  intro cycle
  cases observed : profiler.observation settings resolver repository now with
  | error failure =>
      simp only [profile, observed, Cycle.samples?] at completed
      cases missing : failure.isNotFound <;> simp [missing] at completed
  | ok observation =>
      have finished : cycle = observation.finish now store := by
        simp only [cycle, profile, observed]
      rw [finished]
      simp only [profile, observed, Observation.finish] at completed kept ⊢
      by_cases reportable : observation.profiler.Reportable
      · rw [if_pos reportable] at kept ⊢
        cases saved : CheckpointStore.save store
          (observation.profiler.checkpoint now) with
        | mk next outcome =>
            rw [saved] at kept
            cases outcome with
            | ok _ => exact saved
            | error failure => cases kept
      · rw [if_neg reportable] at completed
        cases completed

/-- The checkpoint of a completed cycle can be loaded, and restored under
every valid spec of its key, with the result that a change of the spec has. -/
theorem Sound.restored_as_updated [OrderedScalar α] [LawfulStore σ α]
    {key : ProfileKey} (sound : profiler.Sound key) {samples : Nat}
    (completed : (profiler.profile settings resolver repository now
      store).samples? = some samples)
    (kept : (profiler.profile settings resolver repository now
      store).unsaved = false)
    (storable : LawfulStore.Storable (σ := σ) ((profiler.profile settings
      resolver repository now store).profiler.checkpoint now)) :
    let cycle := profiler.profile settings resolver repository now store
    let saved := cycle.profiler.checkpoint now
    CheckpointStore.load cycle.store key = .ok (some saved) ∧
      ∀ spec, spec.validate = .ok () → key.agrees spec = true →
        ∀ opened, ∃ restored,
          (create key spec).restore opened saved = .ok restored ∧
            restored.result = (cycle.profiler.update spec).result := by
  intro cycle saved
  have advanced : cycle.profiler.Sound key :=
    (sound.profile settings resolver repository now store).1
  refine ⟨?_, fun spec valid agrees opened =>
    advanced.restore_checkpoint valid agrees now opened⟩
  have loaded : CheckpointStore.load cycle.store saved.key =
      .ok (some saved) :=
    LawfulStore.load_of_saved storable (save_of_samples completed kept)
  rwa [show saved.key = key from advanced.key_eq] at loaded

end Profiler

namespace Manager

variable {σ α : Type} [Analytic α] [CheckpointStore σ α]
  {manager : Manager α} {resolver : Resolver} {now : Instant}
  {store : σ} {key : ProfileKey} {spec : Spec α}

/-- A new profile starts from the checkpoint of its key if there is one. -/
theorem register_unknown
    (accepted : manager.accept resolver key spec = .ok ())
    (unknown : manager.registry.find? key = none)
    {held : Option (Checkpoint α)} {profiler : Profiler α} {found : Bool}
    (loaded : CheckpointStore.load store key = .ok held)
    (opened : restoreFrom (.create key spec) now (.ok held) =
      .ok (profiler, found)) :
    ∃ registration,
      manager.register resolver now store key spec =
          .ok (.ok registration) ∧
        registration.manager = manager.install key profiler := by
  refine ⟨⟨manager.install key profiler, true, found, false⟩, ?_, rfl⟩
  simp only [register, accepted, enter, unknown, loaded, opened]
  rfl

end Manager

namespace Engine

variable {σ α : Type} [Analytic α] [CheckpointStore σ α]
  {engine next : Engine σ α}

theorem carryOut_register {now : Instant} {key : ProfileKey}
    {spec : Spec α} {registration : Manager.Registration α}
    (registered : engine.manager.register engine.resolver now engine.store
      key spec = .ok (.ok registration)) :
    ∃ next, engine.carryOut (.register now key spec) = .ok next ∧
      next.manager = registration.manager := by
  simp only [carryOut, register, registered]
  exact ⟨_, rfl, rfl⟩

theorem carryOut_unregister_known {key : ProfileKey}
    {profiler : Profiler α}
    (known : engine.manager.registry.find? key = some profiler)
    (carried : engine.carryOut (.unregister key) = .ok next) :
    engine.manager.unregister key = .ok next.manager ∧
      next.store = engine.store := by
  have registered : engine.manager.isRegistered key = true := by
    rw [Manager.isRegistered, SortedMap.contains, known]
    rfl
  simp only [carryOut, unregister, Manager.unregister, registered, if_true]
    at carried ⊢
  cases carried
  exact ⟨rfl, rfl⟩

variable [OrderedScalar α] [LawfulStore σ α] {places : List ProfileKey}
  {map : MemoryStore α} {key : ProfileKey} {profiler : Profiler α}
  {now : Instant} {hashes : Hashes}

open Manager (Housed)

/-- A round in which the cycle of a key is completed stores its checkpoint. -/
theorem stored_by_round
    (housed : Housed places engine.manager engine.store map)
    (storable : ∀ key checkpoint,
      engine.writes? key (.runRound now hashes) = some checkpoint →
        LawfulStore.Storable (σ := σ) checkpoint)
    (known : engine.manager.registry.find? key = some profiler)
    {samples : Nat}
    (completed : (profiler.profile engine.settings.profiler engine.resolver
      (engine.repository.seeded hashes) now engine.store).samples? =
        some samples) :
    let after := (engine.runRound now hashes).1
    ∃ live stored, after.manager.registry.find? key = some live ∧
      live.spec = profiler.spec ∧
      Housed places after.manager after.store stored ∧
      stored.find? key = some (live.checkpoint now) := by
  intro after
  obtain ⟨stored, continued, effect⟩ :=
    housed.runRound storable engine.telemetry
  refine ⟨profiler.cycled engine.settings.profiler engine.resolver
    (engine.repository.seeded hashes) now, stored, ?_, Profiler.spec_cycled,
    continued, ?_⟩
  · have advanced := Manager.find?_runRound engine.settings.profiler
      engine.resolver (engine.repository.seeded hashes) now engine.manager
      engine.store engine.telemetry key
    rw [known] at advanced
    exact advanced
  · rw [effect, Manager.written?, known, Option.bind_some,
      Profiler.written?_of_samples completed, Option.some_or]

/-- The checkpoint of a profile that is unregistered stays until a collection
deletes it. -/
theorem kept_since_unregistered
    (housed : Housed places engine.manager engine.store map)
    (known : engine.manager.registry.find? key = some profiler)
    {between : List (Operation α)}
    (orderly : engine.Orderly places (.unregister key :: between))
    (absent : ∀ now spec, .register now key spec ∉ between)
    (ran : engine.run (.unregister key :: between) = .ok next) :
    next.manager.registry.find? key = none ∧
      ∃ after, Housed places next.manager next.store after ∧
        after.find? key = (map.find? key).filter fun checkpoint =>
          between.all fun operation =>
            operation.spares engine.settings.checkpointGrace
              checkpoint.savedAt := by
  obtain ⟨parted, carried, ran⟩ := run_cons_eq_ok_iff.1 ran
  obtain ⟨removed, store⟩ := carryOut_unregister_known known carried
  have manager := Manager.eq_erase_of_unregister removed
  have unknown : parted.manager.registry.find? key = none := by
    rw [manager, SortedMap.find?_erase, if_pos rfl]
  have kept : Housed places parted.manager parted.store map := by
    refine housed_of_same_store housed
      (sound_carryOut housed.sound carried) store ?_
    rw [manager]
    intro other listed
    exact housed.registered (SortedMap.mem_keys_erase_iff.1 listed).2
  rw [← (change_of_carryOut carried).1.settings]
  exact kept_run kept (orderly.2.2 parted carried) ran absent unknown

omit [OrderedScalar α] in
/-- A profile that is registered again starts from what the store has for
it. -/
theorem registered_again
    (housed : Housed places engine.manager engine.store map)
    (admits : engine.manager.Admits engine.resolver key)
    (unknown : engine.manager.registry.find? key = none)
    {live : Profiler α} (sound : live.Sound key) {saved : Instant}
    {kept : Bool}
    (held : map.find? key =
      if kept then some (live.checkpoint saved) else none)
    (opened : Instant) :
    ∃ next,
      engine.carryOut (.register opened key live.spec) = .ok next ∧
        next.manager.results.find? key =
          some (if kept then live.result else ∅) := by
  have accepted := Manager.accept_eq_ok_iff.2
    ⟨admits, sound.valid, sound.agrees⟩
  have loaded := LawfulStore.load_eq housed.mirrors key
  rw [held] at loaded
  obtain ⟨profiler, found, restored, published⟩ :
      ∃ profiler found,
        Manager.restoreFrom (.create key live.spec) opened
            (.ok (if kept then some (live.checkpoint saved) else none)) =
          .ok (profiler, found) ∧
        profiler.result = if kept then live.result else ∅ := by
    cases kept with
    | false => exact ⟨_, false, rfl, rfl⟩
    | true =>
        obtain ⟨restored, succeeded, result⟩ :=
          sound.restore_checkpoint sound.valid sound.agrees saved opened
        refine ⟨restored, true, ?_, ?_⟩
        · simp [Manager.restoreFrom, succeeded]
        · rw [result, sound.result_update]
          rfl
  obtain ⟨registration, registered, installed⟩ :=
    Manager.register_unknown accepted unknown loaded restored
  obtain ⟨next, carried, same⟩ := carryOut_register registered
  refine ⟨next, carried, ?_⟩
  rw [same, installed, Manager.install, SortedMap.find?_insert_self,
    published]

/-- What a run has registered can be restored from the checkpoint of a
completed cycle under every valid spec of its key, and publishes what the
profiler that was not stopped would publish with that spec.  A profile that is
unregistered after such a cycle and registered again publishes its last result
if each collection in between was within the grace period, else nothing. -/
theorem restored_as_never_stopped {start : Engine σ α}
    {earlier : List (Operation α)} (fresh : start.Fresh)
    (ran : start.run earlier = .ok engine)
    (known : engine.manager.registry.find? key = some profiler)
    (now : Instant) (hashes : Hashes) :
    let cycle (store : σ) := profiler.profile engine.settings.profiler
      engine.resolver (engine.repository.seeded hashes) now store
    (∀ store samples, (cycle store).samples? = some samples →
      (cycle store).unsaved = false →
        let live := (cycle store).profiler
        let saved := live.checkpoint now
        LawfulStore.Storable (σ := σ) saved →
          CheckpointStore.load (cycle store).store key =
              .ok (some saved) ∧
            ∀ spec, spec.validate = .ok () → key.agrees spec = true →
              ∀ opened, ∃ restored,
                (Profiler.create key spec).restore opened saved =
                    .ok restored ∧
                  restored.result = (live.update spec).result) ∧
    ∀ places map between samples,
      Housed places start.manager start.store map →
      start.Orderly places
          (earlier ++ .runRound now hashes :: .unregister key :: between) →
      (cycle engine.store).samples? = some samples →
      (∀ time spec, .register time key spec ∉ between) →
        let after := (engine.runRound now hashes).1
        let grace := engine.settings.checkpointGrace
        ∃ result, after.manager.results.find? key = some result ∧
          ∀ idle, after.run (.unregister key :: between) = .ok idle →
            ∀ opened, ∃ again,
              idle.carryOut (.register opened key profiler.spec) =
                  .ok again ∧
                again.manager.results.find? key =
                  some (if between.all (·.spares grace now) then result
                    else ∅) := by
  intro cycle
  have initial : start.manager.Sound := by
    rw [fresh.manager]
    exact Manager.sound_initial
  have sound : engine.manager.Sound :=
    run_invariant (fun _ _ _ => sound_carryOut) initial ran
  constructor
  · intro store samples completed kept live saved storable
    exact (sound.profilers key profiler known).restored_as_updated completed
      kept storable
  · intro places map between samples begun orderly completed absent after
      grace
    obtain ⟨⟨-, storable, rest⟩, reached, housed⟩ :=
      housed_run begun orderly ran
    obtain ⟨live, stored, running, unchanged, continued, held⟩ :=
      stored_by_round housed storable known completed
    refine ⟨live.result, ?_, fun idle stopped opened => ?_⟩
    · rw [continued.sound.results, running, Option.map_some]
    · have carried : engine.carryOut (.runRound now hashes) = .ok after :=
        rfl
      obtain ⟨unknown, final, settled, left⟩ := kept_since_unregistered
        continued running (rest after carried) absent stopped
      have admits : idle.manager.Admits idle.resolver key :=
        run_invariant (fun _ _ _ => admits_of_carryOut)
          (admits_of_carryOut (admits_of_registered fresh ran known) carried)
          stopped
      rw [held, Option.filter_some] at left
      rw [← unchanged]
      exact registered_again settled admits unknown
        (continued.sound.profilers key live running) left opened

def bothSources : Profiler Float :=
  Profiler.Overlap.profiler [.metricsApi, .prometheus "vms"]

/-- An engine that keeps the checkpoints of unregistered profiles for some
seconds. -/
def graceStart (grace : Nat) : Engine (MemoryStore Float) Float :=
  { overlapStart with settings := ⟨Profiler.Overlap.settings, grace, 1⟩ }

/-- The entries that are published after a run. -/
def published (grace : Nat) (operations : List (Operation Float)) :
    Option (List String) :=
  (((graceStart grace).run operations).toOption.bind fun engine =>
    engine.manager.results.find? bothSources.key).map SortedMap.keys

/-- A profile that is registered again publishes nothing if a collection in
between finds a grace period that is too long to be a period. -/
theorem forgotten_within_grace :
    let grace := 18446744073709551615
    let earlier : List (Operation Float) :=
      [.tryStart, .register ⟨10, 0⟩ bothSources.key bothSources.spec,
        .runRound ⟨100, 0⟩]
    let again : List (Operation Float) :=
      [.unregister bothSources.key, .collectGarbage ⟨200, 0⟩,
        .register ⟨201, 0⟩ bothSources.key bothSources.spec]
    compare (⟨100, 0⟩ : Instant) (Manager.periodStart ⟨200, 0⟩ grace) =
        .gt ∧
      published grace earlier = some ["app"] ∧
      published grace (earlier ++ again) = some [] := by
  decide +kernel

/-- The engine once the profile of both sources is registered. -/
def registeredEngine : Engine (MemoryStore Float) Float :=
  { graceStart 600 with
    manager := ⟨SortedMap.ofList [(bothSources.key, bothSources)],
      SortedMap.ofList [(bothSources.key, ∅)], true⟩
    telemetry := Telemetry.zero.setProfiles 1 }

/-- Within the grace period the last result is published once more. -/
theorem published_within_grace :
    let key := bothSources.key
    let earlier : List (Operation Float) :=
      [.tryStart, .register ⟨10, 0⟩ key bothSources.spec]
    let after := (registeredEngine.runRound ⟨100, 0⟩).1
    (graceStart 600).Fresh ∧
      (graceStart 600).run earlier = .ok registeredEngine ∧
      registeredEngine.manager.registry.find? key = some bothSources ∧
      ∃ result idle again,
        after.manager.results.find? key = some result ∧
          after.run [.unregister key, .collectGarbage ⟨200, 0⟩] =
            .ok idle ∧
          idle.carryOut (.register ⟨201, 0⟩ key bothSources.spec) =
            .ok again ∧
          again.manager.results.find? key = some result := by
  intro key earlier after
  have fresh : (graceStart 600).Fresh := ⟨rfl, rfl⟩
  have ran : (graceStart 600).run earlier = .ok registeredEngine := by rfl
  have known : registeredEngine.manager.registry.find? key =
      some bothSources := by rfl
  have housed : Housed [key] (graceStart 600).manager (graceStart 600).store
      (∅ : MemoryStore Float) := {
    sound := Manager.sound_initial
    mirrors := ⟨rfl, MemoryStore.keyed_empty⟩
    apart := fun _ _ _ _ => trivial
    registered := List.nil_subset _
    held := List.nil_subset _ }
  have orderly : (graceStart 600).Orderly [key] (earlier ++
      [.runRound ⟨100, 0⟩, .unregister key, .collectGarbage ⟨200, 0⟩]) :=
    orderly_of_storable (fun _ => trivial) (by grind)
  have completed : (bothSources.profile Profiler.Overlap.settings
      Profiler.Overlap.resolver Profiler.Overlap.repository ⟨100, 0⟩
        registeredEngine.store).samples? = some 2 := by
    decide +kernel
  obtain ⟨-, continued⟩ :=
    restored_as_never_stopped fresh ran known ⟨100, 0⟩ .equal
  obtain ⟨result, last, published⟩ := continued [key] ∅
    [.collectGarbage ⟨200, 0⟩] 2 housed orderly completed (by simp)
  obtain ⟨idle, stopped⟩ : ∃ idle,
      after.run [.unregister key, .collectGarbage ⟨200, 0⟩] = .ok idle := by
    have finished : (after.run
        [.unregister key, .collectGarbage ⟨200, 0⟩]).isOk = true := by
      decide +kernel
    cases ended : after.run
        [.unregister key, .collectGarbage ⟨200, 0⟩] with
    | error crash =>
        rw [ended] at finished
        cases finished
    | ok idle => exact ⟨idle, rfl⟩
  obtain ⟨again, registered, same⟩ := published idle stopped ⟨201, 0⟩
  refine ⟨fresh, ran, known, result, idle, again, last, stopped, registered,
    ?_⟩
  rw [same]
  rfl

end Engine

end UsageForecast
