import UsageForecast.Profiler.Interleaving
import UsageForecast.Proofs.CallOrder
import UsageForecast.Proofs.KeyIsolation

/-!
# Operations that fail

A cycle that finds no pods, or finds another cycle running, leaves no trace:
neither in its profiler nor in the store, and a round goes on as if the
profile had not taken its turn.  A registration or a removal that is refused
leaves the whole engine as it is.  A checkpoint that cannot be saved is
reported, and nothing else comes of it.
-/

namespace UsageForecast

namespace Profiler

/-- The cycle did not run, whether or not that counts as an error. -/
def Outcome.Refused : Outcome → Prop
  | .completed _ => False
  | .skipped _ => True
  | .failed _ => True
  | .crashed _ => False

section

variable {σ τ α : Type} [Analytic α] [CheckpointStore σ α]
  [CheckpointStore τ α] {settings : Settings α} {resolver : Resolver}
  {repository : Repository α} {now : Instant} {profiler : Profiler α}

/-- The cycles that are refused are those that find no pods. -/
theorem refused_iff {store : σ} :
    (profiler.profile settings resolver repository now
        store).outcome.Refused ↔
      ∃ failure, resolver.pods profiler.key.target = .error failure := by
  cases resolved : resolver.pods profiler.key.target with
  | error failure =>
      rw [profile_of_unresolved settings repository now store resolved]
      cases failure.isNotFound <;> simp [Outcome.Refused]
  | ok pods =>
      rcases profile_cases settings resolver repository now profiler store
        with ⟨failure, unresolved, -⟩ | ⟨_, -, completed | crashed⟩
      · rw [resolved] at unresolved
        cases unresolved
      · obtain ⟨-, -, -, report, ended, -⟩ := completed
        simp [ended, Outcome.Refused]
      · simp [crashed.2.2.2, Outcome.Refused]

/-- What a cycle makes of its profiler does not depend on the store, not even
on its kind. -/
theorem profiler_eq (store : σ) (other : τ) :
    (profiler.profile settings resolver repository now store).profiler =
      (profiler.profile settings resolver repository now
        other).profiler := by
  rw [(profile_effect settings resolver repository now profiler store).1,
    (profile_effect settings resolver repository now profiler other).1]

theorem keepsResult_eq (store : σ) (other : τ) :
    Manager.keepsResult (profiler.profile settings resolver repository now
        store).outcome =
      Manager.keepsResult (profiler.profile settings resolver repository now
        other).outcome := by
  cases resolved : resolver.pods profiler.key.target with
  | error failure =>
      simp only [profile_of_unresolved settings repository now _ resolved]
  | ok pods =>
      simp only [profile_of_resolved settings repository now _ resolved,
        Observation.finish]
      split
      · rfl
      · rfl

namespace Observation

variable {observation : Observation α}

/-- The report of a cycle that has nothing more to add. -/
def report (observation : Observation α) : Report :=
  ⟨observation.pods, observation.profiler.entries.size,
    observation.tally.samples, observation.tally.failures⟩

theorem finish_of_saved (reportable : observation.profiler.Reportable)
    {store : σ}
    (saved : (CheckpointStore.save store
      (observation.profiler.checkpoint now)).2 = .ok ()) :
    let cycle := observation.finish now store
    cycle.unsaved = false ∧
      cycle.outcome = .completed observation.report := by
  simp only [finish, if_pos reportable, saved]
  exact ⟨rfl, rfl⟩

theorem finish_of_unsaved (reportable : observation.profiler.Reportable)
    {store : σ} {failure : Failure}
    (refused : (CheckpointStore.save store
      (observation.profiler.checkpoint now)).2 = .error failure) :
    let cycle := observation.finish now store
    cycle.unsaved = true ∧ cycle.profiler = observation.profiler.publish ∧
      cycle.outcome = .completed
        { observation.report with
          failures := observation.report.failures ++ [failure.message] } := by
  simp only [finish, if_pos reportable, refused]
  exact ⟨rfl, trivial, rfl⟩

end Observation

/-- A cycle whose save fails ends as one does whose save succeeds, and reports
the failure of the save after all others. -/
theorem completed_of_unsaved {store : σ} {other : τ}
    (unsaved : (profiler.profile settings resolver repository now
      store).unsaved = true)
    (saved : (profiler.profile settings resolver repository now
      other).unsaved = false) :
    let cycle := profiler.profile settings resolver repository now store
    ∃ report failure,
      (CheckpointStore.save store (cycle.profiler.checkpoint now)).2 =
        .error failure ∧
      (profiler.profile settings resolver repository now other).outcome =
        .completed report ∧
      cycle.outcome = .completed
        { report with failures := report.failures ++ [failure.message] } := by
  intro cycle
  cases resolved : resolver.pods profiler.key.target with
  | error failure =>
      rw [profile_of_unresolved settings repository now store resolved]
        at unsaved
      cases unsaved
  | ok pods =>
      simp only [cycle,
        profile_of_resolved settings repository now _ resolved]
        at unsaved saved ⊢
      generalize Observation.mk _ _ _ = observation at unsaved saved ⊢
      -- Both cycles get as far as saving, since the first one has failed at it.
      have reportable : observation.profiler.Reportable := by
        by_contra stopped
        rw [Observation.finish, if_neg stopped] at unsaved
        cases unsaved
      cases refused : (CheckpointStore.save store
          (observation.profiler.checkpoint now)).2 with
      | ok =>
          rw [(Observation.finish_of_saved reportable refused).1] at unsaved
          cases unsaved
      | error failure =>
          obtain ⟨-, published, reported⟩ :=
            Observation.finish_of_unsaved reportable refused
          cases kept : (CheckpointStore.save other
              (observation.profiler.checkpoint now)).2 with
          | error =>
              rw [(Observation.finish_of_unsaved reportable kept).1] at saved
              cases saved
          | ok =>
              rw [published]
              exact ⟨observation.report, failure, refused,
                (Observation.finish_of_saved reportable kept).2, reported⟩

end

section

variable {σ α : Type}

/-- The cycle of a call, in whatever phase it is, does not find the pods of a
target. -/
def Call.Lost (target : Target) : Call α → Prop
  | .update _ => False
  | .following _ => False
  | .cycle surroundings =>
      ∃ failure, surroundings.resolver.pods target = .error failure
  | .begun surroundings =>
      ∃ failure, surroundings.resolver.pods target = .error failure
  | .running surroundings _ =>
      ∃ failure, surroundings.resolver.pods target = .error failure
  | .returned => True

variable [Analytic α] [CheckpointStore σ α]

/-- A cycle that finds no pods only gives the entries free again. -/
theorem Shared.finishCycle_of_unresolved {shared : Shared σ α}
    {surroundings : Surroundings α} {failure : Failure}
    (unresolved : surroundings.resolver.pods shared.profiler.key.target =
      .error failure) (spec : Spec α) :
    shared.finishCycle surroundings spec = { shared with busy := false } := by
  have same : (shared.profiler.storeSpec spec).key.target =
      shared.profiler.key.target := rfl
  rw [← same] at unresolved
  simp only [Shared.finishCycle,
    profile_of_unresolved surroundings.settings surroundings.repository
      surroundings.now shared.store unresolved]
  rfl

/-- The steps of a cycle that finds no pods leave the profiler and the store
alone. -/
theorem step_of_lost {shared after : Shared σ α} {call next : Call α}
    (lost : call.Lost shared.profiler.key.target)
    (stepped : step shared call = some (after, next)) :
    after.profiler = shared.profiler ∧ after.store = shared.store ∧
      next.Lost shared.profiler.key.target := by
  cases call with
  | update spec => cases lost
  | following spec => cases lost
  | cycle surroundings =>
      simp only [step] at stepped
      split at stepped
      · cases stepped
        exact ⟨rfl, rfl, trivial⟩
      · cases stepped
        exact ⟨rfl, rfl, lost⟩
  | begun surroundings =>
      cases stepped
      exact ⟨rfl, rfl, lost⟩
  | running surroundings spec =>
      obtain ⟨failure, unresolved⟩ := lost
      cases stepped
      rw [Shared.finishCycle_of_unresolved unresolved]
      exact ⟨rfl, rfl, trivial⟩
  | returned => cases stepped

/-- However cycles overlap that find no pods, they leave the profiler and the
store alone. -/
theorem run_of_lost (state : Interleaving (Shared σ α) (Call α))
    (lost : ∀ call ∈ state.calls,
      call.Lost state.shared.profiler.key.target) (schedule : List Nat) :
    let last := (state.run step schedule).shared
    last.profiler = state.shared.profiler ∧
      last.store = state.shared.store := by
  let property (current : Interleaving (Shared σ α) (Call α))
      (_ : List (Call α)) : Prop :=
    current.shared.profiler = state.shared.profiler ∧
      current.shared.store = state.shared.store ∧
      ∀ call ∈ current.calls, call.Lost state.shared.profiler.key.target
  have kept : property (state.run step schedule)
      (state.taken step schedule) := by
    refine Interleaving.run_invariant property ?_ ⟨rfl, rfl, lost⟩ schedule
    rintro current position done call after next
      ⟨profiler, store, calls⟩ called stepped
    have vain := calls call (List.mem_of_getElem? called)
    rw [← profiler] at vain
    obtain ⟨same, stored, going⟩ := step_of_lost vain stepped
    refine ⟨same.trans profiler, stored.trans store, fun other member => ?_⟩
    rcases List.mem_or_eq_of_mem_set member with earlier | rfl
    · exact calls other earlier
    · rwa [profiler] at going
  exact ⟨kept.1, kept.2.1⟩

/-- A cycle that finds another one running takes no part in what follows. -/
theorem run_of_busy {state : Interleaving (Shared σ α) (Call α)}
    {position : Nat} {surroundings : Surroundings α}
    (busy : state.shared.busy = true)
    (called : state.calls[position]? = some (.cycle surroundings))
    (schedule : List Nat) :
    (state.run step (position :: schedule)).shared =
      (state.run step (schedule.filter (· != position))).shared := by
  have returned : state.advance step position =
      ⟨state.shared, state.calls.set position .returned⟩ := by
    simp only [Interleaving.advance, called, step, busy, if_true]
  have others : Interleaving.ButFor position
      (state.advance step position) state := by
    rw [returned]
    exact ⟨rfl, fun other different =>
      List.getElem?_set_ne (Ne.symm different)⟩
  have stuck (shared : Shared σ α) :
      step shared (.returned : Call α) = none := rfl
  refine Interleaving.run_filter_of_stuck stuck others ?_ schedule
  rw [returned]
  exact List.getElem?_set_self (List.getElem?_eq_some_iff.1 called).1

end

end Profiler

namespace Manager

section

variable {σ τ α : Type} [Analytic α] [CheckpointStore σ α]
  [CheckpointStore τ α] {settings : Profiler.Settings α}
  {resolver : Resolver} {repository : Repository α} {now : Instant}

/-- What a turn makes of the manager does not depend on the store. -/
theorem Round.manager_step {left : Round σ α} {right : Round τ α}
    (same : left.manager = right.manager) (key : ProfileKey) :
    (left.step settings resolver repository now key).manager =
      (right.step settings resolver repository now key).manager := by
  unfold Round.step
  rw [same]
  cases right.manager.registry.find? key with
  | none => exact same
  | some profiler =>
      simp only [Round.add, same, Profiler.profiler_eq left.store right.store,
        Profiler.keepsResult_eq left.store right.store]

theorem manager_foldl_step {left : Round σ α} {right : Round τ α}
    (same : left.manager = right.manager) (keys : List ProfileKey) :
    (keys.foldl (Round.step settings resolver repository now) left).manager =
      (keys.foldl (Round.step settings resolver repository now)
        right).manager := by
  induction keys generalizing left right with
  | nil => exact same
  | cons key keys induction => exact induction (Round.manager_step same key)

variable (settings resolver repository now) in
theorem manager_runRound (manager : Manager α) (store : σ) (other : τ)
    (telemetry : Telemetry) :
    (manager.runRound settings resolver repository now store
        telemetry).manager =
      (manager.runRound settings resolver repository now other
        telemetry).manager := by
  unfold runRound
  exact manager_foldl_step (σ := σ) (τ := τ) rfl manager.keys

end

variable {σ α : Type} [Analytic α] [CheckpointStore σ α]
  {settings : Profiler.Settings α} {resolver : Resolver}
  {repository : Repository α} {now : Instant}

/-- Two rounds have come to the same manager and the same store, whatever they
have counted. -/
structure Round.Agree (left right : Round σ α) : Prop where
  manager : left.manager = right.manager
  store : left.store = right.store

omit [Analytic α] [CheckpointStore σ α] in
theorem Round.Agree.trans {first second third : Round σ α}
    (left : first.Agree second) (right : second.Agree third) :
    first.Agree third :=
  ⟨left.manager.trans right.manager, left.store.trans right.store⟩

theorem Round.Agree.step {left right : Round σ α} (agree : left.Agree right)
    (key : ProfileKey) :
    (left.step settings resolver repository now key).Agree
      (right.step settings resolver repository now key) where
  manager := manager_step agree.manager key
  store := by rw [store_step, store_step, agree.manager, agree.store]

/-- The turn of a profile whose pods are not found leaves the registry, the
results and the store alone. -/
theorem Round.Agree.step_of_unresolved {round : Round σ α}
    (sound : round.manager.Sound) {key : ProfileKey} {failure : Failure}
    (unresolved : resolver.pods key.target = .error failure) :
    (round.step settings resolver repository now key).Agree round := by
  unfold Round.step
  cases known : round.manager.registry.find? key with
  | none => exact ⟨rfl, rfl⟩
  | some profiler =>
      have stored := sound.results key
      rw [known, Option.map_some] at stored
      rw [← (sound.profilers key profiler known).key_eq] at unresolved
      simp only [Profiler.profile_of_unresolved settings repository now
        round.store unresolved]
      -- What the turn would keep is what is there already.
      refine ⟨?_, rfl⟩
      simp only [Round.add, SortedMap.insert_of_find? known,
        SortedMap.insert_of_find? stored, ite_self]

variable [OrderedScalar α]

theorem foldl_step_filter {left right : Round σ α} (agree : left.Agree right)
    (sound : right.manager.Sound) (keys : List ProfileKey) :
    (keys.foldl (Round.step settings resolver repository now) left).Agree
      ((keys.filter fun key => (resolver.pods key.target).isOk).foldl
        (Round.step settings resolver repository now) right) := by
  induction keys generalizing left right with
  | nil => exact agree
  | cons key keys induction =>
      cases resolved : resolver.pods key.target with
      | error failure =>
          rw [List.filter_cons_of_neg (by simp [resolved, Except.isOk,
            Except.toBool])]
          exact induction
            ((agree.step key).trans (.step_of_unresolved sound resolved))
            sound
      | ok pods =>
          rw [List.filter_cons_of_pos (by simp [resolved, Except.isOk,
            Except.toBool])]
          exact induction (agree.step key) (sound.step key)

variable (settings resolver repository now) in
/-- In a round, the profiles whose pods are not found might as well not take
their turns. -/
theorem runRound_agree {manager : Manager α} (sound : manager.Sound)
    (store : σ) (telemetry : Telemetry) :
    (manager.runRound settings resolver repository now store telemetry).Agree
      (manager.runInOrder settings resolver repository (fun _ => now) store
        telemetry (manager.keys.filter fun key =>
          (resolver.pods key.target).isOk)) := by
  unfold runRound runInOrder
  exact foldl_step_filter ⟨rfl, rfl⟩ sound manager.keys

end Manager

namespace Engine

section

variable {σ τ α : Type}

/-- The same engine over another store. -/
def withStore (engine : Engine σ α) (store : τ) : Engine τ α :=
  { settings := engine.settings
    repository := engine.repository
    resolver := engine.resolver
    store
    manager := engine.manager
    publisher := engine.publisher
    telemetry := engine.telemetry }

/-- Whether a cycle of a key would find its pods. -/
def finds (engine : Engine σ α) (key : ProfileKey) : Bool :=
  (engine.resolver.pods key.target).isOk

variable [Analytic α] [CheckpointStore σ α]

/-- The next cycle of a profiler. -/
def cycle (engine : Engine σ α) (now : Instant) (profiler : Profiler α)
    (hashes : Hashes := .equal) : Profiler.Cycle σ α :=
  profiler.profile engine.settings.profiler engine.resolver
    (engine.repository.seeded hashes) now engine.store

end

/-- Operations that fail leave nothing of an engine changed. -/
structure Intact {σ α : Type} [Analytic α] [CheckpointStore σ α]
    (engine : Engine σ α) : Prop where
  /-- A cycle that is refused leaves its profiler, and the whole engine. -/
  cycle : ∀ now profiler hashes,
    (engine.profile now profiler hashes).2.2.Refused →
      (engine.profile now profiler hashes).1 = engine ∧
        (engine.profile now profiler hashes).2.1 = profiler
  /-- In a round, the profiles whose cycles are refused might as well not take
  their turns. -/
  round : ∀ now hashes,
    let found := engine.runInOrder (fun _ => now)
      (engine.manager.keys.filter engine.finds) hashes
    (engine.runRound now hashes).1.manager = found.manager ∧
      (engine.runRound now hashes).1.store = found.store
  refused_iff : ∀ now key profiler hashes,
    engine.manager.registry.find? key = some profiler →
      ((engine.cycle now profiler hashes).outcome.Refused ↔
        engine.finds key = false)
  /-- A cycle that finds another one running takes no part in what follows. -/
  busy : ∀ (state : Interleaving (Profiler.Shared σ α) (Profiler.Call α))
    position surroundings schedule, state.shared.busy = true →
      state.calls[position]? = some (.cycle surroundings) →
        (state.run Profiler.step (position :: schedule)).shared =
          (state.run Profiler.step
            (schedule.filter (· != position))).shared
  /-- However refused cycles of a profiler overlap, it stays as it is. -/
  lost : ∀ (state : Interleaving (Profiler.Shared σ α) (Profiler.Call α))
    schedule, (∀ call ∈ state.calls,
      call.Lost state.shared.profiler.key.target) →
        let last := (state.run Profiler.step schedule).shared
        last.profiler = state.shared.profiler ∧
          last.store = state.shared.store
  /-- A registration that is refused leaves the whole engine. -/
  register : ∀ now key spec next failure,
    engine.register now key spec = .ok (next, .error failure) →
      next = engine
  register_refused_iff : ∀ now key spec,
    (∃ next failure,
      engine.register now key spec = .ok (next, .error failure)) ↔
        engine.manager.started = false ∨ spec.validate ≠ .ok () ∨
          key.agrees spec = false ∨
            ∃ workload, key.target = .workload workload ∧
              engine.resolver.supports workload.kind = false
  /-- So does a removal that is refused. -/
  unregister : ∀ key failure, engine.unregister key = .error failure →
    engine.carryOut (.unregister key) = .ok engine
  unregister_refused_iff : ∀ key failure,
    engine.unregister key = .error failure ↔
      engine.manager.registry.find? key = none ∧
        failure = .notRegistered key.display
  /-- A cycle that cannot save its checkpoint leaves the same profiler as over
  a store that takes it, and reports one failure more. -/
  unsaved : ∀ {τ : Type} [CheckpointStore τ α] (other : τ) now profiler
      hashes,
    let cycle := engine.cycle now profiler hashes
    let saved := (engine.withStore other).cycle now profiler hashes
    cycle.unsaved = true → saved.unsaved = false →
      cycle.profiler = saved.profiler ∧
      ∃ report failure,
        (CheckpointStore.save engine.store
          (cycle.profiler.checkpoint now)).2 = .error failure ∧
        saved.outcome = .completed report ∧
        cycle.outcome = .completed
          { report with failures := report.failures ++ [failure.message] }
  /-- Whatever becomes of the checkpoints of a round, the registry and the
  results come out the same. -/
  unsavedRound : ∀ {τ : Type} [CheckpointStore τ α] (other : τ) now hashes,
    (engine.runRound now hashes).1.manager =
      ((engine.withStore other).runRound now hashes).1.manager

section

variable {σ α : Type} [Analytic α] [CheckpointStore σ α]
  {engine : Engine σ α} {key : ProfileKey} {spec : Spec α}

theorem register_of_accepted (now : Instant)
    (accepted : engine.manager.accept engine.resolver key spec = .ok ())
    {next : Engine σ α} {failure : Failure} :
    engine.register now key spec ≠ .ok (next, .error failure) := by
  intro registered
  obtain ⟨outcome, entered, answered⟩ := bind_eq_ok_iff.1 registered
  cases outcome with
  | ok registration => cases answered
  | error refusal =>
      unfold Manager.register at entered
      rw [accepted] at entered
      obtain ⟨_, -, same⟩ := map_eq_ok_iff.1 entered
      cases same

theorem register_of_refused (now : Instant) {failure : Failure}
    (refused : engine.manager.accept engine.resolver key spec =
      .error failure) :
    engine.register now key spec = .ok (engine, .error failure) := by
  unfold register Manager.register
  rw [refused]
  rfl

omit [CheckpointStore σ α] in
theorem accepted_iff :
    engine.manager.accept engine.resolver key spec = .ok () ↔
      ¬ (engine.manager.started = false ∨ spec.validate ≠ .ok () ∨
        key.agrees spec = false ∨
          ∃ workload, key.target = .workload workload ∧
            engine.resolver.supports workload.kind = false) := by
  rw [Manager.accept_eq_ok_iff]
  constructor
  · rintro ⟨⟨started, supported⟩, valid, agrees⟩
    rintro (stopped | invalid | foreign | ⟨workload, target, unknown⟩)
    · rw [started] at stopped
      cases stopped
    · exact invalid valid
    · rw [agrees] at foreign
      cases foreign
    · rw [supported workload target] at unknown
      cases unknown
  · intro fine
    simp only [not_or, not_exists, not_and, ne_eq, Classical.not_not,
      Bool.not_eq_false] at fine
    obtain ⟨started, valid, agrees, supported⟩ := fine
    exact ⟨⟨started, supported⟩, valid, agrees⟩

omit [Analytic α] [CheckpointStore σ α] in
theorem unregister_eq_error_iff {failure : Failure} :
    engine.unregister key = .error failure ↔
      engine.manager.registry.find? key = none ∧
        failure = .notRegistered key.display := by
  cases known : engine.manager.registry.find? key with
  | none =>
      have refused : engine.unregister key =
          .error (.notRegistered key.display) := by
        simp only [unregister, Manager.unregister, Manager.isRegistered,
          SortedMap.contains, known]
        rfl
      rw [refused, Except.error.injEq, eq_comm]
      exact (and_iff_right rfl).symm
  | some profiler =>
      constructor
      · intro refused
        simp only [unregister, Manager.unregister, Manager.isRegistered,
          SortedMap.contains, known] at refused
        cases refused
      · rintro ⟨absent, -⟩
        cases absent

variable [OrderedScalar α] {start : Engine σ α}

/-- Whatever an engine has been through, operations that fail leave it
intact. -/
theorem intact_of_run (fresh : start.Fresh) {operations : List (Operation α)}
    (ran : start.run operations = .ok engine) : engine.Intact := by
  have initial : start.manager.Sound := by
    rw [fresh.manager]
    exact Manager.sound_initial
  have sound : engine.manager.Sound :=
    run_invariant (fun _ _ _ => sound_carryOut) initial ran
  constructor
  case cycle =>
    intro now profiler hashes refused
    obtain ⟨failure, unresolved⟩ := Profiler.refused_iff.1 refused
    simp only [profile, Profiler.profile_of_unresolved
      engine.settings.profiler (engine.repository.seeded hashes) now
      engine.store unresolved]
    refine ⟨?_, trivial⟩
    cases failure.isNotFound <;> rfl
  case round =>
    intro now hashes found
    obtain ⟨manager, store⟩ := Manager.runRound_agree
      engine.settings.profiler engine.resolver
      (engine.repository.seeded hashes) now sound engine.store
      engine.telemetry
    exact ⟨manager, store⟩
  case refused_iff =>
    intro now key profiler hashes known
    rw [cycle, Profiler.refused_iff,
      (sound.profilers key profiler known).key_eq, finds]
    cases engine.resolver.pods key.target with
    | error failure => simp [Except.isOk, Except.toBool]
    | ok pods => simp [Except.isOk, Except.toBool]
  case busy =>
    intro state position surroundings schedule busy called
    exact Profiler.run_of_busy busy called schedule
  case lost =>
    intro state schedule lost
    exact Profiler.run_of_lost state lost schedule
  case register =>
    intro now key spec next failure registered
    cases checked : engine.manager.accept engine.resolver key spec with
    | ok => exact absurd registered (register_of_accepted now checked)
    | error =>
        rw [register_of_refused now checked] at registered
        cases registered
        rfl
  case register_refused_iff =>
    intro now key spec
    rw [← not_iff_not, ← accepted_iff]
    cases checked : engine.manager.accept engine.resolver key spec with
    | ok =>
        refine iff_of_true ?_ rfl
        rintro ⟨next, failure, registered⟩
        exact register_of_accepted now checked registered
    | error failure =>
        refine iff_of_false ?_ nofun
        exact fun never =>
          never ⟨engine, failure, register_of_refused now checked⟩
  case unregister =>
    intro key failure refused
    rw [carryOut, refused]
  case unregister_refused_iff =>
    exact fun key failure => unregister_eq_error_iff
  case unsaved =>
    intro τ _ other now profiler hashes cycle saved failed kept
    exact ⟨Profiler.profiler_eq engine.store other,
      Profiler.completed_of_unsaved failed kept⟩
  case unsavedRound =>
    intro τ _ other now hashes
    exact Manager.manager_runRound engine.settings.profiler engine.resolver
      (engine.repository.seeded hashes) now engine.manager engine.store other
      engine.telemetry

end

open StoreCall (metricsKey)
open Profiler.Overlap (pod spec)

/-- A deployment is deleted whose profile is registered, and no checkpoint can
be saved.  The round is the one of the other profile, and the manager comes
out as over a store in memory. -/
theorem deleted_deployment_skipped :
    let remaining : Cluster :=
      ⟨SortedMap.ofList
        [(⟨"Deployment", "default", "web"⟩, ⟨some ⟨∅, []⟩, ⟨∅, ["app"]⟩⟩)],
        [pod]⟩
    let start := filed.withStore (⟨"/checkpoints", .occupied⟩ : Directory)
    let operations := [
      .tryStart,
      .register ⟨10, 0⟩ (metricsKey "db") (spec [.metricsApi]),
      .register ⟨10, 0⟩ (metricsKey "web") (spec [.metricsApi]),
      .refreshCluster ⟨90, 0⟩ (.ok remaining)]
    ∃ engine,
      start.run operations = .ok engine ∧
      (engine.runRound ⟨100, 0⟩).2 = ⟨2, 1, 1, 0⟩ ∧
      (engine.runRound ⟨100, 0⟩).1.telemetry.checkpointErrors =
        engine.telemetry.checkpointErrors + 1 ∧
      (engine.runRound ⟨100, 0⟩).1.manager =
        (engine.runInOrder (fun _ => ⟨100, 0⟩) [metricsKey "web"]).manager ∧
      (engine.runRound ⟨100, 0⟩).1.manager =
        ((engine.withStore (∅ : MemoryStore Float)).runRound
          ⟨100, 0⟩).1.manager ∧
      engine.carryOut (.unregister (metricsKey "api")) = .ok engine := by
  intro remaining start operations
  have seen : ((start.run operations).toOption.map fun engine =>
      ((engine.runRound ⟨100, 0⟩).2,
        engine.telemetry.checkpointErrors,
        (engine.runRound ⟨100, 0⟩).1.telemetry.checkpointErrors,
        engine.manager.keys.filter engine.finds,
        (engine.manager.registry.find? (metricsKey "api")).isNone)) =
          some (⟨2, 1, 1, 0⟩, 2, 3, [metricsKey "web"], true) := by
    decide +kernel
  obtain ⟨engine, completed, same⟩ := Option.map_eq_some_iff.1 seen
  simp only [Prod.mk.injEq, Option.isNone_iff_eq_none] at same
  obtain ⟨summary, before, after, found, unknown⟩ := same
  have ran := toOption_eq_some_iff.1 completed
  have intact : engine.Intact := intact_of_run ⟨rfl, rfl⟩ ran
  have round := (intact.round ⟨100, 0⟩ .equal).1
  rw [found] at round
  exact ⟨engine, ran, summary, by rw [before, after], round,
    intact.unsavedRound _ _ _, intact.unregister _ _
      ((intact.unregister_refused_iff _ _).2 ⟨unknown, rfl⟩)⟩

end Engine

end UsageForecast
