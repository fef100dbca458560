import UsageForecast.Engine.Basic
import UsageForecast.Proofs.ValidSpec

/-!
# Runs of the engine

A run is a list of operations that are carried out one after another.  An
operation that is refused is completed all the same; only one that stops the
program is not.
-/

namespace UsageForecast.Engine

/-- What may be asked of an engine, with what the outside world answers. -/
inductive Operation (α : Type) where
  | tryStart
  | register (now : Instant) (key : ProfileKey) (spec : Spec α)
  | unregister (key : ProfileKey)
  | runRound (now : Instant) (hashes : Hashes := .equal)
  | collectGarbage (now : Instant)
  | refreshUsage (now : Instant) (source : Source)
      (outcome : Except String (UsageSnapshot α))
  | refreshCluster (now : Instant) (outcome : Except String Cluster)
  | publish (write : Publisher.Write → Bool)

/-- Nothing has been registered or published yet. -/
structure Fresh {σ α : Type} (engine : Engine σ α) : Prop where
  manager : engine.manager = .initial
  publisher : engine.publisher = .initial

theorem refreshUsage_frame {σ α : Type} (engine : Engine σ α)
    (now : Instant) (source : Source)
    (outcome : Except String (UsageSnapshot α)) :
    let next := (engine.refreshUsage now source outcome).1
    next.manager = engine.manager ∧ next.publisher = engine.publisher := by
  simp only [refreshUsage, countRefresh]
  split
  · exact ⟨rfl, rfl⟩
  · exact ⟨rfl, rfl⟩

theorem refreshCluster_frame {σ α : Type} (engine : Engine σ α)
    (now : Instant) (outcome : Except String Cluster) :
    let next := (engine.refreshCluster now outcome).1
    next.manager = engine.manager ∧ next.publisher = engine.publisher := by
  simp only [refreshCluster, countRefresh]
  split
  · exact ⟨rfl, rfl⟩
  · exact ⟨rfl, rfl⟩

theorem collectGarbage_frame {σ α : Type} [CheckpointStore σ α]
    {engine : Engine σ α} {now : Instant} {answer : Engine σ α × Nat}
    (collected : engine.collectGarbage now = .ok answer) :
    answer.1.manager = engine.manager ∧
      answer.1.publisher = engine.publisher := by
  obtain ⟨removed, -, same⟩ := bind_eq_ok_iff.1 collected
  cases same
  exact ⟨rfl, rfl⟩

variable {σ α : Type} [Analytic α] [CheckpointStore σ α]

/-- Carry out one operation. -/
def carryOut (engine : Engine σ α) :
    Operation α → Except Crash (Engine σ α)
  | .tryStart => .ok engine.tryStart
  | .register now key spec => (·.1) <$> engine.register now key spec
  | .unregister key =>
      match engine.unregister key with
      | .ok next => .ok next
      | .error _ => .ok engine
  | .runRound now hashes => .ok (engine.runRound now hashes).1
  | .collectGarbage now => (·.1) <$> engine.collectGarbage now
  | .refreshUsage now source outcome =>
      .ok (engine.refreshUsage now source outcome).1
  | .refreshCluster now outcome =>
      .ok (engine.refreshCluster now outcome).1
  | .publish write => .ok (engine.publish write).1

variable {engine next : Engine σ α}

/-- A registration is refused, or changes the manager only. -/
theorem register_cases {now : Instant} {key : ProfileKey} {spec : Spec α}
    {answer : Engine σ α × Except Failure Unit}
    (registered : engine.register now key spec = .ok answer) :
    answer.1.publisher = engine.publisher ∧
      (answer.1.manager = engine.manager ∨ ∃ registration,
        engine.manager.register engine.resolver now engine.store key spec =
            .ok (.ok registration) ∧
          answer.1.manager = registration.manager) := by
  obtain ⟨outcome, accepted, registered⟩ := bind_eq_ok_iff.1 registered
  cases outcome with
  | error failure =>
      cases registered
      exact ⟨rfl, .inl rfl⟩
  | ok registration =>
      cases registered
      exact ⟨rfl, .inr ⟨registration, accepted, rfl⟩⟩

/-- A profile that is not registered cannot be removed, which is no reason to
stop. -/
theorem carryOut_unregister {key : ProfileKey}
    (carried : engine.carryOut (.unregister key) = .ok next) :
    next.publisher = engine.publisher ∧
      (next.manager = engine.manager ∨
        engine.manager.unregister key = .ok next.manager) := by
  unfold carryOut at carried
  cases removed : engine.unregister key with
  | error failure =>
      simp only [removed] at carried
      cases carried
      exact ⟨rfl, .inl rfl⟩
  | ok rest =>
      simp only [removed] at carried
      cases carried
      obtain ⟨manager, erased, same⟩ := bind_eq_ok_iff.1 removed
      cases same
      exact ⟨rfl, .inr erased⟩

/-- Only publishing changes what the publisher remembers. -/
theorem publisher_of_carryOut {operation : Operation α}
    (other : ∀ write, operation ≠ .publish write)
    (carried : engine.carryOut operation = .ok next) :
    next.publisher = engine.publisher := by
  cases operation with
  | tryStart =>
      cases carried
      rfl
  | register now key spec =>
      obtain ⟨answer, registered, rfl⟩ := map_eq_ok_iff.1 carried
      exact (register_cases registered).1
  | unregister key => exact (carryOut_unregister carried).1
  | runRound now hashes =>
      cases carried
      rfl
  | collectGarbage now =>
      obtain ⟨answer, collected, rfl⟩ := map_eq_ok_iff.1 carried
      exact (collectGarbage_frame collected).2
  | refreshUsage now source outcome =>
      cases carried
      exact (refreshUsage_frame engine now source outcome).2
  | refreshCluster now outcome =>
      cases carried
      exact (refreshCluster_frame engine now outcome).2
  | publish write => exact absurd rfl (other write)

/-- Carry out operations one after another. -/
def run (engine : Engine σ α) (operations : List (Operation α)) :
    Except Crash (Engine σ α) :=
  operations.foldlM carryOut engine

theorem run_cons_eq_ok_iff {last : Engine σ α}
    {operation : Operation α} {operations : List (Operation α)} :
    engine.run (operation :: operations) = .ok last ↔
      ∃ next, engine.carryOut operation = .ok next ∧
        next.run operations = .ok last := by
  rw [run, List.foldlM_cons]
  exact bind_eq_ok_iff

/-- What every completed operation keeps holds after every run. -/
theorem run_invariant {property : Engine σ α → Prop}
    (kept : ∀ engine operation next, property engine →
      engine.carryOut operation = .ok next → property next)
    {last : Engine σ α} {operations : List (Operation α)}
    (start : property engine) (ran : engine.run operations = .ok last) :
    property last := by
  induction operations generalizing engine with
  | nil =>
      cases ran
      exact start
  | cons operation operations induction =>
      obtain ⟨next, carried, rest⟩ := run_cons_eq_ok_iff.1 ran
      exact induction (kept engine operation next start carried) rest

end UsageForecast.Engine
