import UsageForecast.Proofs.CacheHistory

/-!
# Rounds in which nothing fails

The manager starts only with a view of the cluster, and a view is replaced but
never dropped.  Registrations are accepted for the kinds that the resolver
supports, which no operation changes.  So all that can keep a cycle of a
registered profile from its pods is a workload that does not exist, and such a
cycle is skipped.
-/

namespace UsageForecast

namespace Resolver

/-- The cluster is known, and objects of the kind of a target are looked up
in it. -/
structure Serves (resolver : Resolver) (target : Target) : Prop where
  synced : resolver.isSynced = true
  supported : ∀ workload, target = .workload workload →
    resolver.supports workload.kind = true

/-- A target that is served is resolved, or it does not exist. -/
theorem Serves.isNotFound {resolver : Resolver} {target : Target}
    (serves : resolver.Serves target) {failure : Failure}
    (refused : resolver.pods target = .error failure) :
    failure.isNotFound = true := by
  obtain ⟨cluster, view⟩ := Option.isSome_iff_exists.1 serves.synced
  have known : resolver.cluster = .ok cluster := by
    rw [Resolver.cluster, view]
  cases target with
  | pods scope selector =>
      simp only [pods, known, bind, Except.bind] at refused
      cases refused
  | workload workload =>
      simp only [pods, known, bind, Except.bind, controller,
        serves.supported workload rfl, if_true] at refused
      cases found : cluster.controllers.find? (.ofWorkload workload) with
      | none =>
          simp only [found] at refused
          cases refused
          rfl
      | some controller =>
          cases selection : controller.selector with
          | none =>
              simp only [found, selection] at refused
              cases refused
          | some selector =>
              simp only [found, selection] at refused
              cases refused

end Resolver

namespace Profiler

/-- A cycle ended with a report, or did not run for a reason that is no
error. -/
def Outcome.Regular (outcome : Outcome) : Prop :=
  (∃ report, outcome = .completed report) ∨
    ∃ reason, outcome = .skipped reason

variable {σ α : Type} [Analytic α] [CheckpointStore σ α]
  {settings : Settings α} {resolver : Resolver} {repository : Repository α}
  {now : Instant} {profiler : Profiler α}

theorem skipped_of_isNotFound {failure : Failure} (store : σ)
    (unresolved : resolver.pods profiler.key.target = .error failure)
    (absent : failure.isNotFound = true) :
    (profiler.profile settings resolver repository now store).outcome =
      .skipped failure.message := by
  rw [profile_of_unresolved settings repository now store unresolved,
    if_pos absent]

variable [OrderedScalar α]

variable (settings repository now) in
/-- The cycles of a sound profiler whose target is served are regular. -/
theorem Sound.regular {key : ProfileKey} (sound : profiler.Sound key)
    (serves : resolver.Serves key.target) (store : σ) :
    (profiler.profile settings resolver repository now
      store).outcome.Regular := by
  rcases profile_cases settings resolver repository now profiler store with
    ⟨failure, unresolved, -⟩ | ⟨pods, -, completed | stopped⟩
  · rw [← sound.key_eq] at serves
    exact .inr ⟨_, skipped_of_isNotFound store unresolved
      (serves.isNotFound unresolved)⟩
  · obtain ⟨-, -, -, report, ended, -⟩ := completed
    exact .inl ⟨report, ended⟩
  · exact absurd (reportable_of_bounded (bounded_advance sound.bounded))
      stopped.1

end Profiler

namespace Manager

variable {σ α : Type} [Analytic α] [CheckpointStore σ α]
  {settings : Profiler.Settings α} {resolver : Resolver}
  {repository : Repository α} {now : Instant}

/-- The cycles of some profiles are counted as regular, and no others. -/
structure Summary.Advances (before after : Summary) (cycles : Nat) :
    Prop where
  profiles : after.profiles = before.profiles
  failed : after.failed = before.failed
  regular : after.succeeded + after.skipped =
    before.succeeded + before.skipped + cycles

theorem Summary.advances_add (summary : Summary)
    {outcome : Profiler.Outcome} (regular : outcome.Regular) :
    summary.Advances (summary.add outcome) 1 := by
  rcases regular with ⟨report, rfl⟩ | ⟨reason, rfl⟩
  · exact ⟨rfl, rfl, Nat.add_right_comm _ 1 _⟩
  · exact ⟨rfl, rfl, rfl⟩

theorem Summary.Advances.trans {first second third : Summary}
    {earlier later : Nat} (one : first.Advances second earlier)
    (two : second.Advances third later) :
    first.Advances third (earlier + later) where
  profiles := two.profiles.trans one.profiles
  failed := two.failed.trans one.failed
  regular := by
    rw [two.regular, one.regular, Nat.add_assoc]

/-- The profiles of some keys are registered, and their targets are
served. -/
structure Ready (resolver : Resolver) (keys : List ProfileKey)
    (manager : Manager α) : Prop where
  sound : manager.Sound
  registered : ∀ key ∈ keys, (manager.registry.find? key).isSome
  serves : ∀ key ∈ keys, resolver.Serves key.target

variable [OrderedScalar α]

variable (settings repository now) in
theorem Ready.step {round : Round σ α} {key : ProfileKey}
    {keys : List ProfileKey}
    (ready : round.manager.Ready resolver (key :: keys)) :
    let after := round.step settings resolver repository now key
    after.manager.Ready resolver keys ∧
      round.summary.Advances after.summary 1 := by
  intro after
  constructor
  · exact {
      sound := ready.sound.step key
      registered := by
        intro other member
        rw [find?_step]
        split
        · rw [Option.isSome_map]
          exact ready.registered other (List.mem_cons_of_mem _ member)
        · exact ready.registered other (List.mem_cons_of_mem _ member)
      serves := fun other member =>
        ready.serves other (List.mem_cons_of_mem _ member) }
  · obtain ⟨profiler, known⟩ := Option.isSome_iff_exists.1
      (ready.registered key List.mem_cons_self)
    have regular := (ready.sound.profilers key profiler known).regular
      settings repository now (ready.serves key List.mem_cons_self)
      round.store
    simp only [after, Round.step, known]
    exact round.summary.advances_add regular

variable (settings repository now) in
/-- Each of some ready profiles is counted once as regular. -/
theorem Ready.foldl_step {round : Round σ α} {keys : List ProfileKey}
    (ready : round.manager.Ready resolver keys) :
    round.summary.Advances
      (keys.foldl (Round.step settings resolver repository now)
        round).summary keys.length := by
  induction keys generalizing round with
  | nil => exact ⟨rfl, rfl, rfl⟩
  | cons key keys induction =>
      obtain ⟨rest, counted⟩ := ready.step settings repository now
      rw [List.length_cons, Nat.add_comm]
      exact counted.trans (induction rest)

end Manager

namespace Engine

variable {σ α : Type} [Analytic α] [CheckpointStore σ α]

/-- Ask for an operation.  One that stops the program leaves the engine as it
was. -/
def attempt (engine : Engine σ α) (operation : Operation α) : Engine σ α :=
  match engine.carryOut operation with
  | .ok next => next
  | .error _ => engine

/-- Ask for operations one after another. -/
def attemptAll (engine : Engine σ α) (operations : List (Operation α)) :
    Engine σ α :=
  operations.foldl attempt engine

/-- What every completed operation keeps holds however many operations are
asked for. -/
theorem attemptAll_invariant {property : Engine σ α → Prop}
    (kept : ∀ engine operation next, property engine →
      engine.carryOut operation = .ok next → property next)
    {engine : Engine σ α} (start : property engine)
    (operations : List (Operation α)) :
    property (engine.attemptAll operations) := by
  induction operations generalizing engine with
  | nil => exact start
  | cons operation operations induction =>
      refine induction ?_
      unfold attempt
      split
      next next carried => exact kept engine operation next start carried
      next => exact start

variable {engine next : Engine σ α}

/-- Along a run nothing stops the program, and every operation counts. -/
theorem attemptAll_of_run {operations : List (Operation α)}
    (ran : engine.run operations = .ok next) :
    engine.attemptAll operations = next := by
  induction operations generalizing engine with
  | nil => exact Except.ok.inj ran
  | cons operation operations induction =>
      obtain ⟨between, carried, rest⟩ := run_cons_eq_ok_iff.1 ran
      rw [attemptAll, List.foldl_cons, attempt, carried]
      exact induction rest

/-- What keeps the cycles of registered profiles from failing. -/
structure Assured (engine : Engine σ α) : Prop where
  sound : engine.manager.Sound
  viewed : engine.manager.started = true → engine.resolver.isSynced = true
  admitted : ∀ key profiler,
    engine.manager.registry.find? key = some profiler →
      engine.manager.Admits engine.resolver key

omit [CheckpointStore σ α] in
theorem assured_of_initial (unstarted : engine.manager = .initial) :
    engine.Assured where
  sound := by
    rw [unstarted]
    exact Manager.sound_initial
  viewed := by
    intro started
    rw [unstarted] at started
    cases started
  admitted := by
    intro key profiler known
    rw [unstarted] at known
    cases known

variable [OrderedScalar α]

theorem Assured.carryOut (assured : engine.Assured)
    {operation : Operation α}
    (carried : engine.carryOut operation = .ok next) : next.Assured where
  sound := sound_carryOut assured.sound carried
  viewed := by
    intro started
    obtain ⟨_, _, _, refreshed⟩ := refreshed_carryOut carried
    refine refreshed.isSynced_resolver ?_
    rcases refreshed.started started with earlier | ⟨-, synced⟩
    · exact assured.viewed earlier
    · exact synced
  admitted := by
    intro key profiler found
    refine admits_of_carryOut ?_ carried
    rcases registered_or_admitted carried found with ⟨earlier, known⟩ |
      accepted
    · exact assured.admitted key earlier known
    · exact accepted

omit [CheckpointStore σ α] [OrderedScalar α] in
theorem Assured.serves (assured : engine.Assured) {key : ProfileKey}
    {profiler : Profiler α}
    (known : engine.manager.registry.find? key = some profiler) :
    engine.resolver.Serves key.target :=
  have admits := assured.admitted key profiler known
  ⟨assured.viewed admits.started, admits.supported⟩

theorem Assured.regular (assured : engine.Assured) {key : ProfileKey}
    {profiler : Profiler α}
    (known : engine.manager.registry.find? key = some profiler)
    (now : Instant) (hashes : Hashes) :
    (engine.profile now profiler hashes).2.2.Regular :=
  (assured.sound.profilers key profiler known).regular _ _ _
    (assured.serves known) _

theorem Assured.runRound (assured : engine.Assured) (now : Instant)
    (hashes : Hashes) :
    (⟨engine.manager.size, 0, 0, 0⟩ : Manager.Summary).Advances
      (engine.runRound now hashes).2 engine.manager.keys.length := by
  have ready : engine.manager.Ready engine.resolver
      engine.manager.keys := {
    sound := assured.sound
    registered := fun key => SortedMap.mem_keys_iff.1
    serves := by
      intro key member
      obtain ⟨profiler, known⟩ := Option.isSome_iff_exists.1
        (SortedMap.mem_keys_iff.1 member)
      exact assured.serves known }
  let round : Manager.Round σ α := ⟨engine.manager, engine.store,
    engine.telemetry, ⟨engine.manager.size, 0, 0, 0⟩⟩
  have begun : round.manager.Ready engine.resolver engine.manager.keys :=
    ready
  exact begun.foldl_step engine.settings.profiler
    (engine.repository.seeded hashes) now

/-- Whatever has been asked of an engine whose manager was new, and whatever
the outside world has answered, the cycles of registered profiles are
completed or skipped, and every round counts each registered profile once as
one of the two. -/
theorem rounds_never_fail {start : Engine σ α}
    (unstarted : start.manager = .initial)
    (operations : List (Operation α)) (now : Instant) (hashes : Hashes) :
    let engine := start.attemptAll operations
    let summary := (engine.runRound now hashes).2
    (∀ key profiler, engine.manager.registry.find? key = some profiler →
      (engine.profile now profiler hashes).2.2.Regular) ∧
      summary.failed = 0 ∧
      summary.profiles = engine.manager.keys.length ∧
      summary.succeeded + summary.skipped = summary.profiles := by
  intro engine summary
  have assured : engine.Assured :=
    attemptAll_invariant
      (fun _ _ _ assured carried => assured.carryOut carried)
      (assured_of_initial unstarted) operations
  have counted := assured.runRound now hashes
  have size : engine.manager.keys.length = engine.manager.size :=
    List.length_map _
  refine ⟨fun key profiler known => assured.regular known now hashes,
    counted.failed, counted.profiles.trans size.symm, ?_⟩
  rw [counted.regular, counted.profiles, Nat.zero_add, Nat.zero_add, size]

/-- Two profiles, one of them of a workload that does not exist, and then
neither the cluster nor the usage can be fetched. -/
def outage : List (Operation Float) :=
  let spec := Profiler.Overlap.spec [.metricsApi]
  [.tryStart,
    .register ⟨10, 0⟩ (.ofSpec
      (.workload ⟨"Deployment", "web", "default", none⟩) .container spec)
      spec,
    .register ⟨10, 0⟩ (Profiler.Overlap.profiler [.metricsApi]).key spec,
    .refreshCluster ⟨20, 0⟩ (.error "timeout"),
    .refreshUsage ⟨20, 0⟩ .metricsApi (.error "timeout")]

/-- In an outage one of the profiles is skipped and the other one goes on. -/
theorem outage_counted_as_regular :
    let engine := overlapStart.attemptAll outage
    let summary := (engine.runRound ⟨100, 0⟩).2
    overlapStart.manager = .initial ∧ engine.manager.keys.length = 2 ∧
      summary.failed = 0 ∧
      summary.profiles = engine.manager.keys.length ∧
      summary.skipped = 1 ∧
      summary.succeeded + summary.skipped = summary.profiles := by
  have registered :
      (overlapStart.attemptAll outage).manager.keys.length = 2 := by
    decide +kernel
  have skipped : ((overlapStart.attemptAll outage).runRound
      ⟨100, 0⟩).2.skipped = 1 := by
    decide +kernel
  have unstarted : overlapStart.manager = .initial := rfl
  obtain ⟨-, failed, profiles, regular⟩ :=
    rounds_never_fail unstarted outage ⟨100, 0⟩ .equal
  exact ⟨unstarted, registered, failed, profiles, skipped, regular⟩

end Engine

end UsageForecast
