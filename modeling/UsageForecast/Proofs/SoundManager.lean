import UsageForecast.Proofs.EngineRun
import UsageForecast.Proofs.RepeatedCycles
import UsageForecast.Proofs.SoundProfiler

/-!
# The registry and the results

The manager keeps a registry of profilers and a map of their results.  After
every operation the two have the same keys, each result is what its profiler
has published and what it renders at that time, and every profiler is sound.
-/

namespace UsageForecast

namespace Manager

variable {α : Type} [Analytic α]

/-- All registered profilers are sound, and the results are theirs. -/
structure Sound (manager : Manager α) : Prop where
  profilers : ∀ key profiler,
    manager.registry.find? key = some profiler → profiler.Sound key
  results : ∀ key, manager.results.find? key =
    (manager.registry.find? key).map Profiler.result

theorem sound_initial : (initial : Manager α).Sound where
  profilers := by
    intro key profiler found
    cases found
  results := fun _ => rfl

theorem Sound.install {manager : Manager α} (sound : manager.Sound)
    {key : ProfileKey} {profiler : Profiler α}
    (soundProfiler : profiler.Sound key) :
    (manager.install key profiler).Sound where
  profilers := by
    intro other found known
    rw [Manager.install, SortedMap.find?_insert] at known
    split at known
    next same =>
      rw [same, ← Option.some.inj known]
      exact soundProfiler
    next => exact sound.profilers other found known
  results := by
    intro other
    simp only [Manager.install, SortedMap.find?_insert]
    split
    · rfl
    · exact sound.results other

theorem Sound.unregister {manager next : Manager α} (sound : manager.Sound)
    {key : ProfileKey} (removed : manager.unregister key = .ok next) :
    next.Sound := by
  unfold Manager.unregister at removed
  split at removed
  · obtain rfl := Except.ok.inj removed
    constructor
    · intro other profiler found
      rw [SortedMap.find?_erase] at found
      split at found
      · cases found
      · exact sound.profilers other profiler found
    · intro other
      simp only [SortedMap.find?_erase]
      split
      · rfl
      · exact sound.results other
  · cases removed

theorem valid_of_accept {manager : Manager α} {resolver : Resolver}
    {key : ProfileKey} {spec : Spec α}
    (accepted : manager.accept resolver key spec = .ok ()) :
    spec.validate = .ok () ∧ key.agrees spec = true := by
  unfold accept at accepted
  cases started : manager.started with
  | false =>
      rw [started] at accepted
      cases accepted
  | true =>
      cases valid : spec.validate with
      | error fault =>
          rw [started, valid] at accepted
          cases accepted
      | ok checked =>
          cases agrees : key.agrees spec with
          | false =>
              rw [started, valid, agrees] at accepted
              cases accepted
          | true => exact ⟨rfl, rfl⟩

variable {σ : Type} [CheckpointStore σ α]

theorem Sound.enter {manager : Manager α} (sound : manager.Sound)
    {now : Instant} {store : σ} {key : ProfileKey} {spec : Spec α}
    {registration : Registration α} (valid : spec.validate = .ok ())
    (agrees : key.agrees spec = true)
    (entered : manager.enter now store key spec = .ok registration) :
    registration.manager.Sound := by
  unfold Manager.enter at entered
  split at entered
  next profiler known =>
    cases entered
    exact sound.install
      ((sound.profilers key profiler known).update valid agrees)
  next =>
    obtain ⟨⟨profiler, restored⟩, loaded, entered⟩ :=
      bind_eq_ok_iff.1 entered
    cases entered
    have created := Profiler.sound_create valid agrees
    refine sound.install ?_
    unfold restoreFrom at loaded
    split at loaded
    next checkpoint =>
      obtain ⟨next, succeeded, loaded⟩ := bind_eq_ok_iff.1 loaded
      cases loaded
      exact created.restore succeeded
    next =>
      cases loaded
      exact created
    next =>
      cases loaded
      exact created

theorem Sound.register {manager : Manager α} (sound : manager.Sound)
    {resolver : Resolver} {now : Instant} {store : σ} {key : ProfileKey}
    {spec : Spec α} {registration : Registration α}
    (registered : manager.register resolver now store key spec =
      .ok (.ok registration)) :
    registration.manager.Sound := by
  unfold Manager.register at registered
  split at registered
  · cases registered
  next accepted =>
    obtain ⟨valid, agrees⟩ := valid_of_accept accepted
    cases entered : manager.enter now store key spec with
    | error crash =>
        rw [entered] at registered
        cases registered
    | ok entry =>
        rw [entered] at registered
        cases registered
        exact sound.enter valid agrees entered

variable [OrderedScalar α]

theorem Sound.step {settings : Profiler.Settings α} {resolver : Resolver}
    {repository : Repository α} {now : Instant} {round : Round σ α}
    (sound : round.manager.Sound) (key : ProfileKey) :
    (round.step settings resolver repository now key).manager.Sound := by
  unfold Round.step
  split
  next => exact sound
  next profiler known =>
    obtain ⟨next, ended⟩ := (sound.profilers key profiler known).profile
      settings resolver repository now round.store
    constructor
    · intro other found held
      simp only [Round.add, SortedMap.find?_insert] at held
      split at held
      next same =>
        rw [same, ← Option.some.inj held]
        exact next
      next => exact sound.profilers other found held
    · intro other
      simp only [Round.add, SortedMap.find?_insert]
      -- A cycle that leaves the result alone leaves the profiler alone.
      rcases ended with unchanged | ⟨report, completed⟩
      · rw [unchanged]
        by_cases same : other = key
        · subst same
          have result := sound.results other
          rw [known] at result
          split <;> simp [result]
        · have result := sound.results other
          split <;> simp [same, SortedMap.find?_insert, result]
      · simp only [completed, keepsResult, if_true, SortedMap.find?_insert]
        split
        · rfl
        · exact sound.results other

theorem Sound.runRound {manager : Manager α} (sound : manager.Sound)
    (settings : Profiler.Settings α) (resolver : Resolver)
    (repository : Repository α) (now : Instant) (store : σ)
    (telemetry : Telemetry) :
    (manager.runRound settings resolver repository now store
      telemetry).manager.Sound := by
  unfold Manager.runRound
  generalize manager.keys = keys
  generalize started : (Round.mk manager store telemetry _ : Round σ α) =
    round
  have first : round.manager.Sound := by
    rw [← started]
    exact sound
  clear started
  induction keys generalizing round with
  | nil => exact first
  | cons key keys induction => exact induction _ (first.step key)

end Manager

namespace Engine

variable {σ α : Type} [Analytic α] [CheckpointStore σ α]

variable [OrderedScalar α]

theorem sound_carryOut {engine next : Engine σ α}
    {operation : Operation α} (sound : engine.manager.Sound)
    (carried : engine.carryOut operation = .ok next) :
    next.manager.Sound := by
  cases operation with
  | tryStart =>
      cases carried
      exact ⟨sound.profilers, sound.results⟩
  | register now key spec =>
      obtain ⟨answer, registered, rfl⟩ := map_eq_ok_iff.1 carried
      obtain ⟨-, kept | ⟨registration, accepted, same⟩⟩ :=
        register_cases registered
      · rw [kept]
        exact sound
      · rw [same]
        exact sound.register accepted
  | unregister key =>
      obtain ⟨-, kept | removed⟩ := carryOut_unregister carried
      · rw [kept]
        exact sound
      · exact sound.unregister removed
  | runRound now hashes =>
      cases carried
      exact sound.runRound _ _ _ _ _ _
  | collectGarbage now =>
      obtain ⟨answer, collected, rfl⟩ := map_eq_ok_iff.1 carried
      rw [(collectGarbage_frame collected).1]
      exact sound
  | refreshUsage now source outcome =>
      cases carried
      rw [(refreshUsage_frame engine now source outcome).1]
      exact sound
  | refreshCluster now outcome =>
      cases carried
      rw [(refreshCluster_frame engine now outcome).1]
      exact sound
  | publish write =>
      cases carried
      exact sound

/-- What holds of a registered profiler under its key, given the stored
results. -/
structure Listed (results : SortedMap ProfileKey (ProfileResult α))
    (key : ProfileKey) (profiler : Profiler α) : Prop where
  key_eq : profiler.key = key
  stored : results.find? key = some profiler.result
  rendered : profiler.result = profiler.summaries
  valid : profiler.spec.validate = .ok ()
  agrees : key.agrees profiler.spec = true
  /-- Distributions are for resources of the spec and carry its labels. -/
  labelled : ∀ name entry resource summary,
    profiler.result.find? name = some entry →
    entry.find? resource = some summary →
      resource ∈ profiler.spec.resources ∧ ∀ label,
        label ∈ summary.quantiles.keys ↔ label ∈ profiler.spec.labels

/-- After every run of a fresh engine each key is registered once, results are
stored for exactly the registered keys, and every registered profiler is
listed with a valid spec, its own result and the labels of its spec. -/
theorem registry_consistent {start engine : Engine σ α}
    (fresh : start.Fresh) {operations : List (Operation α)}
    (ran : start.run operations = .ok engine) :
    engine.manager.registry.keys.Nodup ∧
      (∀ key, key ∈ engine.manager.results.keys ↔
        key ∈ engine.manager.registry.keys) ∧
      ∀ key profiler,
        engine.manager.registry.find? key = some profiler →
          Listed engine.manager.results key profiler := by
  have initial : start.manager.Sound := by
    rw [fresh.manager]
    exact Manager.sound_initial
  have sound : engine.manager.Sound :=
    run_invariant (fun _ _ _ => sound_carryOut) initial ran
  refine ⟨SortedMap.keys_nodup _, ?_, ?_⟩
  · intro key
    rw [SortedMap.mem_keys_iff, SortedMap.mem_keys_iff, sound.results,
      Option.isSome_map]
  · intro key profiler known
    have held := sound.profilers key profiler known
    exact {
      key_eq := held.key_eq
      stored := by rw [sound.results, known, Option.map_some]
      rendered := held.published
      valid := held.valid
      agrees := held.agrees
      labelled := fun _ _ _ _ named found => held.result named found }

/-- An engine with filled caches on which nothing is registered. -/
def overlapStart : Engine (MemoryStore Float) Float :=
  { settings := ⟨Profiler.Overlap.settings, 0, 1⟩
    repository := Profiler.Overlap.repository
    resolver := Profiler.Overlap.resolver
    store := ∅
    manager := .initial
    publisher := .initial
    telemetry := .zero }

/-- A profile gets other labels while it is registered, and others again when
it is restored after its removal. -/
def relabellings (key : ProfileKey) (asking : List String → Spec Float) :
    List (Operation Float) :=
  [.tryStart, .register ⟨10, 0⟩ key (asking ["p50"]), .runRound ⟨100, 0⟩,
    .register ⟨110, 0⟩ key (asking ["p90"]), .runRound ⟨120, 0⟩,
    .unregister key, .register ⟨130, 0⟩ key (asking ["p99"])]

open Profiler.Overlap (profiler) in
/-- What was counted under other labels is published under the last one. -/
theorem restored_under_other_label :
    let both := profiler [.metricsApi, .prometheus "vms"]
    let asking (labels : List String) : Spec Float :=
      { both.spec with estimators := [.distribution ⟨labels, none⟩] }
    ∃ engine held,
      overlapStart.run (relabellings both.key asking) = .ok engine ∧
      engine.manager.registry.find? both.key = some held ∧
      Listed engine.manager.results both.key held ∧
      ∃ entry summary, held.result.find? "app" = some entry ∧
        entry.find? .cpu = some summary ∧
        ∀ label, label ∈ summary.quantiles.keys ↔ label = "p99" := by
  intro both asking
  have seen : ((overlapStart.run
      (relabellings both.key asking)).toOption.bind fun engine =>
        (engine.manager.registry.find? both.key).map fun held =>
          (held.spec.labels,
            ((held.result.find? "app").bind fun entry =>
              entry.find? .cpu).isSome)) = some (["p99"], true) := by
    decide +kernel
  obtain ⟨engine, completed, seen⟩ := Option.bind_eq_some_iff.1 seen
  obtain ⟨held, known, same⟩ := Option.map_eq_some_iff.1 seen
  obtain ⟨labels, present⟩ := Prod.mk.inj same
  have ran := toOption_eq_some_iff.1 completed
  have listed := (registry_consistent ⟨rfl, rfl⟩ ran).2.2 both.key held known
  obtain ⟨summary, observed⟩ := Option.isSome_iff_exists.1 present
  obtain ⟨entry, named, found⟩ := Option.bind_eq_some_iff.1 observed
  refine ⟨engine, held, ran, known, listed, entry, summary, named, found, ?_⟩
  intro label
  rw [(listed.labelled _ _ _ _ named found).2, labels, List.mem_singleton]

end Engine

end UsageForecast
