import UsageForecast.Proofs.RoundEffect

/-!
# What an operation changes

Every operation leaves the settings and the supported kinds alone.  What it
does to the manager and to the store is told by its kind.  A profile that has
been registered would be accepted again at any later time.
-/

namespace UsageForecast

namespace Manager

variable {σ α : Type}

/-- Registrations for the target of a key are accepted. -/
structure Admits (manager : Manager α) (resolver : Resolver)
    (key : ProfileKey) : Prop where
  started : manager.started = true
  supported : ∀ workload, key.target = .workload workload →
    resolver.supports workload.kind = true

theorem Admits.mono {manager next : Manager α} {resolver later : Resolver}
    {key : ProfileKey} (admits : manager.Admits resolver key)
    (started : manager.started = true → next.started = true)
    (kinds : later.extendedKinds = resolver.extendedKinds) :
    next.Admits later key where
  started := started admits.started
  supported := by
    intro workload target
    rw [Resolver.supports, kinds]
    exact admits.supported workload target

/-- A registration is accepted for a target that is admitted, with a valid
spec of the key. -/
theorem accept_eq_ok_iff [Analytic α] {manager : Manager α}
    {resolver : Resolver} {key : ProfileKey} {spec : Spec α} :
    manager.accept resolver key spec = .ok () ↔
      manager.Admits resolver key ∧ spec.validate = .ok () ∧
        key.agrees spec = true := by
  constructor
  · intro accepted
    obtain ⟨valid, agrees⟩ := valid_of_accept accepted
    refine ⟨?_, valid, agrees⟩
    unfold accept at accepted
    cases started : manager.started with
    | false =>
        rw [started] at accepted
        cases accepted
    | true =>
        refine ⟨started, fun workload target => ?_⟩
        rw [started, valid, agrees, target] at accepted
        by_contra refused
        simp only [refused, if_false] at accepted
        cases accepted
  · rintro ⟨admits, valid, agrees⟩
    cases target : key.target with
    | pods scope selector =>
        simp [accept, admits.started, valid, agrees, target, Except.mapError]
    | workload workload =>
        simp [accept, admits.started, valid, agrees, target,
          admits.supported workload target, Except.mapError]

variable [Analytic α] [CheckpointStore σ α]

theorem install_of_register {manager : Manager α} {resolver : Resolver}
    {now : Instant} {store : σ} {key : ProfileKey} {spec : Spec α}
    {registration : Registration α}
    (registered : manager.register resolver now store key spec =
      .ok (.ok registration)) :
    manager.accept resolver key spec = .ok () ∧
      ∃ profiler, registration.manager = manager.install key profiler := by
  unfold register at registered
  split at registered
  next => cases registered
  next accepted =>
    refine ⟨accepted, ?_⟩
    obtain ⟨entry, entered, same⟩ := map_eq_ok_iff.1 registered
    cases same
    unfold enter at entered
    split at entered
    next profiler _ =>
      cases entered
      exact ⟨profiler.update spec, rfl⟩
    next =>
      obtain ⟨restored, -, installed⟩ := bind_eq_ok_iff.1 entered
      cases installed
      exact ⟨restored.1, rfl⟩

omit [Analytic α] [CheckpointStore σ α] in
theorem eq_erase_of_unregister {manager next : Manager α}
    {key : ProfileKey} (removed : manager.unregister key = .ok next) :
    next = { manager with
      registry := manager.registry.erase key
      results := manager.results.erase key } := by
  unfold unregister at removed
  split at removed
  · exact (Except.ok.inj removed).symm
  · cases removed

end Manager

namespace Engine

variable {σ α : Type}

/-- What no operation changes. -/
structure Frame (engine next : Engine σ α) : Prop where
  settings : next.settings = engine.settings
  kinds : next.resolver.extendedKinds = engine.resolver.extendedKinds

theorem Frame.refl (engine : Engine σ α) : engine.Frame engine :=
  ⟨rfl, rfl⟩

theorem frame_refreshUsage (engine : Engine σ α) (now : Instant)
    (source : Source) (outcome : Except String (UsageSnapshot α)) :
    let next := (engine.refreshUsage now source outcome).1
    engine.Frame next ∧ next.store = engine.store := by
  simp only [refreshUsage, countRefresh]
  split
  · exact ⟨⟨rfl, rfl⟩, rfl⟩
  · exact ⟨⟨rfl, rfl⟩, rfl⟩

theorem frame_refreshCluster (engine : Engine σ α) (now : Instant)
    (outcome : Except String Cluster) :
    let next := (engine.refreshCluster now outcome).1
    engine.Frame next ∧ next.store = engine.store := by
  have kinds : (engine.resolver.refresh now outcome).1.extendedKinds =
      engine.resolver.extendedKinds := by
    cases outcome <;> rfl
  simp only [refreshCluster, countRefresh]
  split
  · exact ⟨⟨rfl, kinds⟩, rfl⟩
  · exact ⟨⟨rfl, kinds⟩, rfl⟩

variable [Analytic α] [CheckpointStore σ α] {engine next : Engine σ α}

/-- An operation does not run cycles and does not collect garbage. -/
def Operation.Quiet : Operation α → Prop
  | .runRound _ _ => False
  | .collectGarbage _ => False
  | _ => True

/-- What an operation does to the manager and to the store. -/
inductive Change (engine next : Engine σ α) : Operation α → Prop where
  /-- It is refused, or concerns neither of them. -/
  | nothing {operation : Operation α} :
      operation.Quiet → next.manager = engine.manager →
        next.store = engine.store → Change engine next operation
  | started :
      next.manager =
          engine.manager.tryStart engine.resolver engine.repository →
        next.store = engine.store → Change engine next .tryStart
  | registered {now : Instant} {key : ProfileKey} {spec : Spec α}
      {registration : Manager.Registration α} :
      engine.manager.register engine.resolver now engine.store key spec =
          .ok (.ok registration) →
        next.manager = registration.manager →
          next.store = engine.store →
            Change engine next (.register now key spec)
  | unregistered {key : ProfileKey} :
      engine.manager.unregister key = .ok next.manager →
        next.store = engine.store → Change engine next (.unregister key)
  | ran (now : Instant) (hashes : Hashes) :
      next.manager = (engine.runRound now hashes).1.manager →
        next.store = (engine.runRound now hashes).1.store →
          Change engine next (.runRound now hashes)
  | collected {now : Instant} {count : Nat} :
      next.manager = engine.manager →
        engine.manager.collectGarbage now engine.settings.checkpointGrace
            engine.store = .ok (next.store, count) →
          Change engine next (.collectGarbage now)

theorem change_of_carryOut {operation : Operation α}
    (carried : engine.carryOut operation = .ok next) :
    engine.Frame next ∧ Change engine next operation := by
  cases operation with
  | tryStart =>
      cases carried
      exact ⟨⟨rfl, rfl⟩, .started rfl rfl⟩
  | register now key spec =>
      obtain ⟨answer, registered, rfl⟩ := map_eq_ok_iff.1 carried
      obtain ⟨outcome, accepted, answered⟩ := bind_eq_ok_iff.1 registered
      cases outcome with
      | error failure =>
          cases answered
          exact ⟨.refl _, .nothing trivial rfl rfl⟩
      | ok registration =>
          cases answered
          exact ⟨⟨rfl, rfl⟩, .registered accepted rfl rfl⟩
  | unregister key =>
      unfold carryOut at carried
      cases removed : engine.unregister key with
      | error failure =>
          simp only [removed] at carried
          cases carried
          exact ⟨.refl _, .nothing trivial rfl rfl⟩
      | ok rest =>
          simp only [removed] at carried
          cases carried
          obtain ⟨manager, erased, same⟩ := bind_eq_ok_iff.1 removed
          cases same
          exact ⟨⟨rfl, rfl⟩, .unregistered erased rfl⟩
  | runRound now hashes =>
      cases carried
      exact ⟨⟨rfl, rfl⟩, .ran now hashes rfl rfl⟩
  | collectGarbage now =>
      obtain ⟨answer, answered, rfl⟩ := map_eq_ok_iff.1 carried
      obtain ⟨removed, collected, same⟩ := bind_eq_ok_iff.1 answered
      cases same
      exact ⟨⟨rfl, rfl⟩, .collected rfl collected⟩
  | refreshUsage now source outcome =>
      cases carried
      obtain ⟨frame, store⟩ := frame_refreshUsage engine now source outcome
      exact ⟨frame, .nothing trivial
        (refreshUsage_frame engine now source outcome).1 store⟩
  | refreshCluster now outcome =>
      cases carried
      obtain ⟨frame, store⟩ := frame_refreshCluster engine now outcome
      exact ⟨frame, .nothing trivial
        (refreshCluster_frame engine now outcome).1 store⟩
  | publish write =>
      cases carried
      exact ⟨⟨rfl, rfl⟩, .nothing trivial rfl rfl⟩

/-- A target that is admitted stays so. -/
theorem admits_of_carryOut {operation : Operation α} {key : ProfileKey}
    (admits : engine.manager.Admits engine.resolver key)
    (carried : engine.carryOut operation = .ok next) :
    next.manager.Admits next.resolver key := by
  obtain ⟨frame, change⟩ := change_of_carryOut carried
  refine admits.mono (fun started => ?_) frame.kinds
  cases change with
  | nothing _ manager => rwa [manager]
  | started manager =>
      rw [manager, Manager.tryStart, started]
      rfl
  | registered registered manager =>
      obtain ⟨-, profiler, installed⟩ :=
        Manager.install_of_register registered
      rw [manager, installed]
      exact started
  | unregistered removed =>
      rw [Manager.eq_erase_of_unregister removed]
      exact started
  | ran now hashes manager =>
      rw [manager]
      exact (Manager.started_runRound _ _ _ _ _ _ _).trans started
  | collected manager => rwa [manager]

theorem registered_or_admitted {operation : Operation α}
    {key : ProfileKey} {profiler : Profiler α}
    (carried : engine.carryOut operation = .ok next)
    (found : next.manager.registry.find? key = some profiler) :
    (∃ earlier, engine.manager.registry.find? key = some earlier) ∨
      engine.manager.Admits engine.resolver key := by
  obtain ⟨-, change⟩ := change_of_carryOut carried
  cases change with
  | nothing _ manager =>
      rw [manager] at found
      exact .inl ⟨profiler, found⟩
  | started manager =>
      rw [manager] at found
      exact .inl ⟨profiler, found⟩
  | registered registered manager =>
      obtain ⟨accepted, other, installed⟩ :=
        Manager.install_of_register registered
      rw [manager, installed, Manager.install, SortedMap.find?_insert]
        at found
      split at found
      next same => exact .inr (same ▸ (Manager.accept_eq_ok_iff.1 accepted).1)
      next => exact .inl ⟨profiler, found⟩
  | unregistered removed =>
      rw [Manager.eq_erase_of_unregister removed, SortedMap.find?_erase]
        at found
      split at found
      · cases found
      · exact .inl ⟨profiler, found⟩
  | ran now hashes manager =>
      rw [manager] at found
      have advanced := Manager.find?_runRound engine.settings.profiler
        engine.resolver (engine.repository.seeded hashes) now engine.manager
        engine.store engine.telemetry key
      obtain ⟨earlier, known, -⟩ :=
        Option.map_eq_some_iff.1 (advanced.symm.trans found)
      exact .inl ⟨earlier, known⟩
  | collected manager =>
      rw [manager] at found
      exact .inl ⟨profiler, found⟩

/-- Only a registration makes a profile registered. -/
theorem unregistered_of_carryOut {operation : Operation α}
    {key : ProfileKey}
    (other : ∀ now spec, operation ≠ .register now key spec)
    (unknown : engine.manager.registry.find? key = none)
    (carried : engine.carryOut operation = .ok next) :
    next.manager.registry.find? key = none := by
  obtain ⟨-, change⟩ := change_of_carryOut carried
  cases change with
  | nothing _ manager => rw [manager, unknown]
  | started manager =>
      rw [manager]
      exact unknown
  | @registered now registered spec registration accepted manager =>
      obtain ⟨-, profiler, installed⟩ :=
        Manager.install_of_register accepted
      have different : key ≠ registered := by
        rintro rfl
        exact other now spec rfl
      rw [manager, installed, Manager.install,
        SortedMap.find?_insert_of_ne _ _ different, unknown]
  | unregistered removed =>
      rw [Manager.eq_erase_of_unregister removed, SortedMap.find?_erase,
        unknown, ite_self]
  | ran now hashes manager =>
      rw [manager]
      have advanced := Manager.find?_runRound engine.settings.profiler
        engine.resolver (engine.repository.seeded hashes) now engine.manager
        engine.store engine.telemetry key
      rw [unknown] at advanced
      exact advanced
  | collected manager => rw [manager, unknown]

/-- Every registered profile has been accepted, and would be so again. -/
theorem admits_of_registered {start : Engine σ α} (fresh : start.Fresh)
    {operations : List (Operation α)}
    (ran : start.run operations = .ok engine) {key : ProfileKey}
    {profiler : Profiler α}
    (known : engine.manager.registry.find? key = some profiler) :
    engine.manager.Admits engine.resolver key := by
  let property (engine : Engine σ α) : Prop :=
    ∀ key profiler, engine.manager.registry.find? key = some profiler →
      engine.manager.Admits engine.resolver key
  suffices property engine from this key profiler known
  refine run_invariant ?_ ?_ ran
  · intro engine operation next admitted carried other entered found
    refine admits_of_carryOut ?_ carried
    rcases registered_or_admitted carried found with ⟨earlier, known⟩ |
      accepted
    · exact admitted other earlier known
    · exact accepted
  · intro other entered found
    rw [fresh.manager] at found
    cases found

end Engine

end UsageForecast
