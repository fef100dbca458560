import UsageForecast.Proofs.EngineChange

/-!
# Properties of registered profilers

A profiler that is registered was created for its key, and from then on it
got other specs, took over what a store held for its key, and ran cycles.  So
a property that new profilers have and that these three keep is one of all
registered profilers of a run.
-/

namespace UsageForecast

/-- A property of profilers that whatever happens to registered ones keeps;
checkpoints come from stores of a type. -/
structure Profiler.Lasting {α : Type} [Analytic α] (σ : Type)
    [CheckpointStore σ α] (property : Profiler α → Prop) : Prop where
  created (key : ProfileKey) (spec : Spec α) : property (create key spec)
  updated {profiler : Profiler α} (spec : Spec α) :
    property profiler → property (profiler.update spec)
  restored {profiler restored : Profiler α} {now : Instant} {store : σ}
      {key : ProfileKey} {checkpoint : Checkpoint α} :
    property profiler →
      CheckpointStore.load store key = .ok (some checkpoint) →
        profiler.restore now checkpoint = .ok restored → property restored
  cycled {profiler : Profiler α} (settings : Settings α)
      (resolver : Resolver) (repository : Repository α) (now : Instant) :
    property profiler →
      property (profiler.cycled settings resolver repository now)

variable {σ α : Type} [Analytic α] [CheckpointStore σ α]

/-- What a registration installs under its key. -/
theorem Manager.installed_cases {manager : Manager α}
    {resolver : Resolver} {now : Instant} {store : σ} {key : ProfileKey}
    {spec : Spec α} {registration : Registration α}
    (registered : manager.register resolver now store key spec =
      .ok (.ok registration)) :
    ∃ profiler, registration.manager = manager.install key profiler ∧
      ((∃ known, manager.registry.find? key = some known ∧
          profiler = known.update spec) ∨
        profiler = .create key spec ∨
        ∃ checkpoint, CheckpointStore.load store key =
            .ok (some checkpoint) ∧
          (Profiler.create key spec).restore now checkpoint =
            .ok profiler) := by
  unfold register at registered
  split at registered
  next => cases registered
  next =>
    obtain ⟨entry, entered, same⟩ := map_eq_ok_iff.1 registered
    cases same
    unfold enter at entered
    split at entered
    next known listed =>
      cases entered
      exact ⟨_, rfl, .inl ⟨known, listed, rfl⟩⟩
    next =>
      obtain ⟨⟨profiler, restored⟩, loaded, installed⟩ :=
        bind_eq_ok_iff.1 entered
      cases installed
      refine ⟨profiler, rfl, .inr ?_⟩
      unfold restoreFrom at loaded
      split at loaded
      next checkpoint held =>
        obtain ⟨next, succeeded, same⟩ := bind_eq_ok_iff.1 loaded
        cases same
        exact .inr ⟨checkpoint, held, succeeded⟩
      next =>
        cases loaded
        exact .inl rfl
      next =>
        cases loaded
        exact .inl rfl

namespace Engine

variable {property : Profiler α → Prop}

theorem lasting_carryOut (lasting : Profiler.Lasting σ property)
    {engine next : Engine σ α} {operation : Operation α}
    (all : ∀ key profiler,
      engine.manager.registry.find? key = some profiler →
        property profiler)
    (carried : engine.carryOut operation = .ok next) :
    ∀ key profiler, next.manager.registry.find? key = some profiler →
      property profiler := by
  intro key profiler found
  obtain ⟨-, change⟩ := change_of_carryOut carried
  cases change with
  | nothing _ manager =>
      rw [manager] at found
      exact all key profiler found
  | started manager =>
      rw [manager] at found
      exact all key profiler found
  | registered registered manager =>
      obtain ⟨entered, installed, origin⟩ :=
        Manager.installed_cases registered
      rw [manager, installed, Manager.install, SortedMap.find?_insert]
        at found
      split at found
      · cases found
        rcases origin with ⟨known, listed, rfl⟩ | rfl |
          ⟨checkpoint, loaded, succeeded⟩
        · exact lasting.updated _ (all _ known listed)
        · exact lasting.created _ _
        · exact lasting.restored (lasting.created _ _) loaded succeeded
      · exact all key profiler found
  | unregistered removed =>
      rw [Manager.eq_erase_of_unregister removed, SortedMap.find?_erase]
        at found
      split at found
      · cases found
      · exact all key profiler found
  | ran now hashes manager =>
      rw [manager] at found
      have advanced := Manager.find?_runRound engine.settings.profiler
        engine.resolver (engine.repository.seeded hashes) now engine.manager
        engine.store engine.telemetry key
      obtain ⟨earlier, known, rfl⟩ :=
        Option.map_eq_some_iff.1 (advanced.symm.trans found)
      exact lasting.cycled _ _ _ now (all key earlier known)
  | collected manager =>
      rw [manager] at found
      exact all key profiler found

/-- A lasting property is one of all registered profilers of a run. -/
theorem lasting_run (lasting : Profiler.Lasting σ property)
    {start engine : Engine σ α} (fresh : start.Fresh)
    {operations : List (Operation α)}
    (ran : start.run operations = .ok engine) {key : ProfileKey}
    {profiler : Profiler α}
    (known : engine.manager.registry.find? key = some profiler) :
    property profiler := by
  let all (engine : Engine σ α) : Prop :=
    ∀ key profiler, engine.manager.registry.find? key = some profiler →
      property profiler
  suffices all engine from this key profiler known
  refine run_invariant ?_ ?_ ran
  · intro engine operation next all carried
    exact lasting_carryOut lasting all carried
  · intro key profiler found
    rw [fresh.manager] at found
    cases found

end Engine

end UsageForecast
