import UsageForecast.Proofs.CheckpointFile
import UsageForecast.Proofs.NumberedBuckets
import UsageForecast.Proofs.Reregistration

/-!
# Which saved checkpoints can be restored

The checkpoint that a cycle has saved is restored and listed later on if all
its numbers are finite.  The save succeeds in any case: what it leaves behind
may be undecodable, and then a new profiler for the key starts afresh.
-/

namespace UsageForecast

section

variable {α : Type} [Analytic α] [Checkpoint.Diagnosis]

/-- A new profiler for a key, with what a directory holds for the key taken
over, and whether that was anything. -/
def Directory.reopen (directory : Directory) (key : ProfileKey)
    (spec : Spec α) (now : Instant) : Except Crash (Profiler α × Bool) :=
  Manager.restoreFrom (.create key spec) now
    (CheckpointStore.load directory key)

namespace Directory

variable {directory : Directory} {saved : Checkpoint α}

theorem Returns.reopen (returns : directory.Returns saved) {spec : Spec α}
    {now : Instant} {restored : Profiler α}
    (succeeded : (Profiler.create saved.key spec).restore now saved =
      .ok restored) :
    directory.reopen saved.key spec now = .ok (restored, true) := by
  rw [Directory.reopen, load_eq, returns.loaded]
  simp only [Except.mapError, Manager.restoreFrom, succeeded]
  rfl

theorem Withholds.reopen (withholds : directory.Withholds saved)
    (spec : Spec α) (now : Instant) :
    directory.reopen saved.key spec now =
      .ok (.create saved.key spec, false) := by
  rw [Directory.reopen, load_eq, withholds.unloaded]
  rfl

end Directory

/-- A new profiler for a key takes over the statistics that were saved. -/
structure Profiler.Resumes (profiler : Profiler α) (directory : Directory)
    (saved : Instant) : Prop where
  updated : ∀ spec, spec.validate = .ok () →
    profiler.key.agrees spec = true → ∀ opened, ∃ restored,
      directory.reopen profiler.key spec opened = .ok (restored, true) ∧
        restored.result = (profiler.update spec).result
  same : ∀ opened, ∃ restored,
    directory.reopen profiler.key profiler.spec opened =
        .ok (restored, true) ∧
      restored.result = profiler.result ∧
      (restored.checkpoint saved).entries =
        (profiler.checkpoint saved).entries

omit [Checkpoint.Diagnosis] in
/-- A cycle whose checkpoint is saved has been completed. -/
theorem Profiler.profile_of_saved {σ : Type} [CheckpointStore σ α]
    {settings : Settings α} {resolver : Resolver}
    {repository : Repository α} {now : Instant} {profiler : Profiler α}
    {store next : σ} {observation : Observation α}
    (observed : profiler.observation settings resolver repository now =
      .ok observation)
    (reportable : observation.profiler.Reportable)
    (saved : CheckpointStore.save store
      (observation.profiler.checkpoint now) = (next, .ok ())) :
    let cycle := profiler.profile settings resolver repository now store
    cycle.samples? = some observation.tally.samples ∧
      cycle.unsaved = false ∧
      cycle.profiler = observation.profiler.publish := by
  simp only [profile, observed, Observation.finish, if_pos reportable, saved]
  exact ⟨rfl, rfl, trivial⟩

theorem Profiler.Sound.resumes {key : ProfileKey} {profiler : Profiler α}
    (sound : profiler.Sound key) {directory : Directory} {saved : Instant}
    (returns : directory.Returns (profiler.checkpoint saved)) :
    profiler.Resumes directory saved where
  updated spec valid agrees opened := by
    rw [sound.key_eq] at agrees ⊢
    obtain ⟨restored, succeeded, result⟩ :=
      sound.restore_checkpoint valid agrees saved opened
    rw [← sound.key_eq] at succeeded ⊢
    exact ⟨restored, returns.reopen succeeded, result⟩
  same opened := by
    obtain ⟨restored, succeeded, published, same⟩ :=
      sound.restore_estimators sound.valid sound.agrees saved opened
    rw [← sound.key_eq] at succeeded
    have kept name := (same name).trans (sound.estimators_update name)
    exact ⟨restored, returns.reopen succeeded,
      published.trans ((summaries_congr kept).trans sound.published.symm),
      saved_entries_congr kept saved saved⟩

namespace Engine

variable {start engine : Engine Directory α}
  {operations : List (Operation α)} {key : ProfileKey}
  {profiler : Profiler α}

section

variable [WordScalar α]

theorem numbered_cycle (fresh : start.Fresh)
    (ran : start.run operations = .ok engine)
    (known : engine.manager.registry.find? key = some profiler)
    (settings : Profiler.Settings α) (resolver : Resolver)
    (repository : Repository α) (now : Instant) (store : Directory) :
    ((profiler.profile settings resolver repository now
      store).profiler.checkpoint now).Numbered := by
  have numbered := Engine.lasting_run Profiler.lasting_numbered fresh ran
    known
  rw [(Profiler.profile_effect settings resolver repository now profiler
    store).1]
  exact (Profiler.lasting_numbered.cycled settings resolver repository now
    numbered).checkpoint now

end

variable [OrderedScalar α] [WordScalar α]

/-- A checkpoint that is saved by a cycle of a registered profiler is in its
file. -/
theorem saved_cycle (fresh : start.Fresh)
    (ran : start.run operations = .ok engine)
    (known : engine.manager.registry.find? key = some profiler)
    {settings : Profiler.Settings α} {resolver : Resolver}
    {repository : Repository α} {now : Instant} {store : Directory}
    {samples : Nat}
    (completed : (profiler.profile settings resolver repository now
      store).samples? = some samples)
    (kept : (profiler.profile settings resolver repository now
      store).unsaved = false) :
    let cycle := profiler.profile settings resolver repository now store
    let saved := cycle.profiler.checkpoint now
    cycle.profiler.Sound key ∧ saved.Numbered ∧
      cycle.store.Contains saved := by
  intro cycle saved
  have initial : start.manager.Sound := by
    rw [fresh.manager]
    exact Manager.sound_initial
  have manager : engine.manager.Sound :=
    run_invariant (fun _ _ _ => sound_carryOut) initial ran
  have written : CheckpointStore.save store saved = (cycle.store, .ok ()) :=
    Profiler.save_of_samples completed kept
  exact ⟨((manager.profilers key profiler known).profile settings resolver
      repository now store).1,
    numbered_cycle fresh ran known settings resolver repository now store,
    Directory.contains_of_saved (Directory.stored_iff.1 written)⟩

/-- What a cycle of a registered profiler has saved stays in its file.  As
long as it is there, it is restored and listed if all its numbers are finite,
and lost if not. -/
theorem saved_cycle_restored [DecimalScalar α] (fresh : start.Fresh)
    (ran : start.run operations = .ok engine)
    (known : engine.manager.registry.find? key = some profiler)
    (settings : Profiler.Settings α) (resolver : Resolver)
    (repository : Repository α) (now : Instant) (store : Directory)
    {samples : Nat}
    (completed : (profiler.profile settings resolver repository now
      store).samples? = some samples)
    (kept : (profiler.profile settings resolver repository now
      store).unsaved = false) :
    let cycle := profiler.profile settings resolver repository now store
    let saved := cycle.profiler.checkpoint now
    saved.key = key ∧ cycle.store.Contains saved ∧
      ∀ later : Directory, later.Contains saved →
        later.Tells saved ∧
          (saved.Finite → saved.Transcribed →
            cycle.profiler.Resumes later now) ∧
          (¬ saved.Finite → ∀ (spec : Spec α) opened,
            later.reopen key spec opened =
              .ok (.create key spec, false)) := by
  intro cycle saved
  obtain ⟨sound, numbered, contained⟩ :=
    saved_cycle fresh ran known completed kept
  have named : saved.key = key := sound.key_eq
  refine ⟨named, contained, fun later contains => ?_⟩
  have tells := contains.tells numbered
  refine ⟨tells, ?_, ?_⟩
  · intro finite transcribed
    exact sound.resumes (tells.finite finite transcribed)
  · intro infinite spec opened
    rw [← named]
    exact (tells.infinite infinite).reopen spec opened

end Engine

end

/-!
## A new directory

A pod is observed through two back ends at once, and the checkpoint of its
profile is the first one that the directory gets.
-/

namespace Engine

def directoryStart : Engine Directory Float :=
  { settings := ⟨Profiler.Overlap.settings, 600, 1⟩
    repository := .ofSources [.metricsApi, .prometheus "vms"]
    resolver := ⟨[], Cache.empty⟩
    store := ⟨"/checkpoints", .absent⟩
    manager := .initial
    publisher := .initial
    telemetry := .zero }

/-- A back end tells the processor time of the pod. -/
def tellUsage (source : Source) (seconds : Int) (quantity : String) :
    Operation Float :=
  .refreshUsage ⟨60, 0⟩ source <| .ok <|
    (∅ : UsageSnapshot Float).insert Profiler.Overlap.pod.id <|
      (PodUsage.empty ⟨seconds, 0⟩).insert "app" .cpu (.text quantity)

def tellUsages (first second : String) : List (Operation Float) :=
  [.refreshCluster ⟨0, 0⟩ (.ok ⟨∅, [Profiler.Overlap.pod]⟩),
    tellUsage .metricsApi 40 first, tellUsage (.prometheus "vms") 50 second,
    .tryStart, .register ⟨70, 0⟩ bothSources.key bothSources.spec]

/-- What a cycle observes after a run that registers the profile, with the
directory in which it is going to be saved. -/
def observedAfter (operations : List (Operation Float)) :
    Option (Directory × Profiler.Observation Float) := do
  let engine ← (directoryStart.run operations).toOption
  let profiler ← engine.manager.registry.find? bothSources.key
  let observation ← (profiler.observation engine.settings.profiler
    engine.resolver engine.repository ⟨100, 0⟩).toOption
  return (engine.store, observation)

/-- What is observed with a new directory is saved. -/
theorem cycle_of_observed {operations : List (Operation Float)}
    {observation : Profiler.Observation Float}
    (observed : observedAfter operations =
      some (directoryStart.store, observation))
    (reportable : observation.profiler.Reportable) :
    ∃ engine profiler, directoryStart.run operations = .ok engine ∧
      engine.manager.registry.find? bothSources.key = some profiler ∧
      let cycle := profiler.profile engine.settings.profiler engine.resolver
        engine.repository ⟨100, 0⟩ engine.store
      cycle.samples? = some observation.tally.samples ∧
        cycle.unsaved = false ∧
        cycle.profiler = observation.profiler.publish := by
  obtain ⟨engine, ran, observed⟩ := Option.bind_eq_some_iff.1 observed
  obtain ⟨profiler, known, observed⟩ := Option.bind_eq_some_iff.1 observed
  obtain ⟨found, observes, same⟩ := Option.bind_eq_some_iff.1 observed
  obtain ⟨store, rfl⟩ := Prod.mk.inj (Option.some.inj same)
  have reachable : engine.store.reachable = true := by
    rw [store]
    rfl
  have free (name : String) :
      engine.store.nodes.find? name ≠ some .folder := by
    rw [store]
    nofun
  obtain ⟨nodes, written, -⟩ := Directory.save_eq
    (found.profiler.checkpoint ⟨100, 0⟩) reachable (free _) (free _)
  have stored := Directory.stored_iff.2 written
  obtain ⟨samples, kept, published⟩ :=
    Profiler.profile_of_saved (toOption_eq_some_iff.1 observes) reportable
      stored
  exact ⟨engine, profiler, toOption_eq_some_iff.1 ran, known, samples, kept,
    published⟩

/-- Two admitted values of one pod have a spread beyond the largest double.
The checkpoint is saved with success, and lost. -/
theorem overflowing_spread_lost :
    (∀ quantity ∈ ["1e200", "0"],
      (Quantity.parse quantity .cpu : Except _ Float).isOk = true) ∧
    ∃ engine profiler,
      directoryStart.run (tellUsages "1e200" "0") = .ok engine ∧
      engine.manager.registry.find? bothSources.key = some profiler ∧
      let cycle := profiler.profile engine.settings.profiler engine.resolver
        engine.repository ⟨100, 0⟩ engine.store
      cycle.samples? = some 2 ∧ cycle.unsaved = false ∧
        cycle.store.Withholds (cycle.profiler.checkpoint ⟨100, 0⟩) ∧
        ∀ (spec : Spec Float) opened,
          cycle.store.reopen bothSources.key spec opened =
            .ok (.create bothSources.key spec, false) := by
  refine ⟨by decide +kernel, ?_⟩
  have evaluated : (observedAfter (tellUsages "1e200" "0")).map
      (fun (store, observation) =>
        (store, decide observation.profiler.Reportable,
          observation.tally.samples,
          decide (observation.profiler.checkpoint ⟨100, 0⟩).Finite)) =
        some (directoryStart.store, true, 2, false) := by
    decide +kernel
  obtain ⟨⟨store, observation⟩, observed, same⟩ :=
    Option.map_eq_some_iff.1 evaluated
  simp only [Prod.mk.injEq, decide_eq_true_iff, decide_eq_false_iff_not]
    at same
  obtain ⟨rfl, reportable, samples, infinite⟩ := same
  obtain ⟨engine, profiler, ran, known, completed, kept, published⟩ :=
    cycle_of_observed observed reportable
  rw [samples] at completed
  have fresh : directoryStart.Fresh := ⟨rfl, rfl⟩
  obtain ⟨sound, numbered, contained⟩ :=
    saved_cycle fresh ran known completed kept
  have lost := contained.withholds numbered (by rwa [published])
  refine ⟨engine, profiler, ran, known, completed, kept, lost, ?_⟩
  intro spec opened
  rw [← sound.key_eq]
  exact lost.reopen spec opened

/-- The checkpoint of an idle pod is restored. -/
theorem idle_usage_restored :
    ∃ engine profiler, directoryStart.Fresh ∧
      directoryStart.run (tellUsages "0" "0") = .ok engine ∧
      engine.manager.registry.find? bothSources.key = some profiler ∧
      let cycle := profiler.profile engine.settings.profiler engine.resolver
        engine.repository ⟨100, 0⟩ engine.store
      let saved := cycle.profiler.checkpoint ⟨100, 0⟩
      cycle.samples? = some 2 ∧ cycle.unsaved = false ∧ saved.Finite ∧
        saved.Transcribed ∧ cycle.store.Returns saved ∧
        cycle.profiler.Resumes cycle.store ⟨100, 0⟩ := by
  have evaluated : (observedAfter (tellUsages "0" "0")).map
      (fun (store, observation) =>
        let saved := observation.profiler.checkpoint ⟨100, 0⟩
        (store, decide observation.profiler.Reportable,
          observation.tally.samples, decide saved.Finite,
          decide (∀ number ∈ saved.numbers, Scalar.Legible number),
          decide (∀ time ∈ saved.times, time.Legible))) =
        some (directoryStart.store, true, 2, true, true, true) := by
    decide +kernel
  obtain ⟨⟨store, observation⟩, observed, same⟩ :=
    Option.map_eq_some_iff.1 evaluated
  simp only [Prod.mk.injEq, decide_eq_true_iff] at same
  obtain ⟨rfl, reportable, samples, finite, numbers, times⟩ := same
  obtain ⟨engine, profiler, ran, known, completed, kept, published⟩ :=
    cycle_of_observed observed reportable
  rw [samples] at completed
  have fresh : directoryStart.Fresh := ⟨rfl, rfl⟩
  refine ⟨engine, profiler, fresh, ran, known, ?_⟩
  intro cycle saved
  have same : saved = observation.profiler.checkpoint ⟨100, 0⟩ := by
    change cycle.profiler.checkpoint _ = _
    rw [published]
    rfl
  have transcribed : saved.Transcribed := by
    rw [same]
    exact ⟨fun number member _ => numbers number member, times⟩
  have bounded : saved.Finite := by rwa [same]
  obtain ⟨-, contained, continued⟩ := saved_cycle_restored fresh ran known
    engine.settings.profiler engine.resolver engine.repository ⟨100, 0⟩
      engine.store completed kept
  obtain ⟨tells, resumes, -⟩ := continued cycle.store contained
  exact ⟨completed, kept, bounded, transcribed,
    tells.finite bounded transcribed, resumes bounded transcribed⟩

end Engine

end UsageForecast
