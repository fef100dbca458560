import UsageForecast.Proofs.EngineChange
import UsageForecast.Proofs.GarbageCollection
import UsageForecast.Proofs.RoundOrder
import UsageForecast.Proofs.SampleOrder
import UsageForecast.Proofs.StoreHistory

/-!
# Profiles do not notice each other

What there is of a profile is its registered profiler, its stored result and
its checkpoint.  A turn in a round, a registration, a removal and a collection
leave all of it alone unless they concern its key, so a round leaves of each
profile what the turn of that profile alone would leave.
-/

namespace UsageForecast

namespace Manager

variable {σ α : Type}

/-- What there is of a profile. -/
structure Held (α : Type) where
  profiler : Option (Profiler α)
  result : Option (ProfileResult α)
  checkpoint : Except Failure (Option (Checkpoint α))

/-- The checkpoints that a collection is going to delete. -/
def condemned [CheckpointStore σ α] (manager : Manager α) (now : Instant)
    (grace : Nat) (store : σ) : List Checkpoint.Info :=
  match CheckpointStore.list α store,
    now.before? (Instant.effectivePeriod grace) with
  | .ok infos, some cutoff => infos.filter (manager.isGarbage cutoff)
  | _, _ => []

section

variable [CheckpointStore σ α]

def held (manager : Manager α) (store : σ) (key : ProfileKey) : Held α :=
  ⟨manager.registry.find? key, manager.results.find? key,
    CheckpointStore.load store key⟩

theorem foldl_condemned {manager : Manager α} {now : Instant} {grace : Nat}
    {store : σ} {answer : σ × Nat}
    (collected : manager.collectGarbage now grace store = .ok answer) :
    answer = (manager.condemned now grace store).foldl
      (deleteOne (α := α)) (store, 0) := by
  unfold collectGarbage at collected
  unfold condemned
  split at collected
  next unlisted =>
    cases collected
    rw [unlisted]
    rfl
  next infos listed =>
    rw [listed]
    split at collected
    · cases collected
    next cutoff inside =>
      rw [inside]
      exact (Except.ok.inj collected).symm

variable [SeparateStore σ α] {key : ProfileKey}

/-- Deletions under other keys leave a checkpoint alone. -/
theorem load_foldl_deleteOne {infos : List Checkpoint.Info}
    (others : ∀ info ∈ infos, LawfulStore.Apart σ α info.key key ∧
      info.key ≠ key) (store : σ) (count : Nat) :
    CheckpointStore.load (α := α)
        (infos.foldl (deleteOne (α := α)) (store, count)).1 key =
      CheckpointStore.load store key := by
  induction infos generalizing store count with
  | nil => rfl
  | cons info infos induction =>
      obtain ⟨⟨apart, different⟩, later⟩ := List.forall_mem_cons.1 others
      rw [List.foldl_cons, induction later, fst_deleteOne]
      exact SeparateStore.load_delete apart different

end

section Turns

variable [Analytic α] [CheckpointStore σ α] [SeparateStore σ α]
  {settings : Profiler.Settings α} {resolver : Resolver}
  {repository : Repository α} {clock : ProfileKey → Instant}
  {round : Round σ α} {key other : ProfileKey}

/-- A turn leaves other profiles alone. -/
theorem held_turn (sound : round.manager.Sound)
    (apart : LawfulStore.Apart σ α other key) (different : other ≠ key) :
    let after := round.turn settings resolver repository clock other
    after.manager.held after.store key =
      round.manager.held round.store key := by
  cases known : round.manager.registry.find? other with
  | none => rw [Round.turn_of_absent known]
  | some profiler =>
      rw [Round.turn_of_known known]
      have outside : key ≠ other := Ne.symm different
      have results (cycle : Profiler.Cycle σ α) :
          (round.add other cycle).manager.results.find? key =
            round.manager.results.find? key := by
        simp only [Round.add]
        split
        · exact SortedMap.find?_insert_of_ne _ _ outside
        · rfl
      simp only [held, results, Held.mk.injEq, true_and]
      refine ⟨SortedMap.find?_insert_of_ne _ _ outside, ?_⟩
      simp only [Round.add, Profiler.store_profile]
      cases written : profiler.written? settings resolver repository
          (clock other) with
      | none => rfl
      | some checkpoint =>
          have named : checkpoint.key = other :=
            (Profiler.key_of_written written).trans
              (sound.profilers other profiler known).key_eq
          subst named
          exact SeparateStore.load_save apart different

variable [OrderedScalar α]

/-- Turns of other profiles leave a profile alone. -/
theorem held_foldl_turn {order : List ProfileKey}
    (sound : round.manager.Sound)
    (others : ∀ other ∈ order, LawfulStore.Apart σ α other key ∧
      other ≠ key) :
    let after := order.foldl
      (Round.turn settings resolver repository clock) round
    after.manager.held after.store key =
      round.manager.held round.store key := by
  induction order generalizing round with
  | nil => rfl
  | cons other order induction =>
      obtain ⟨⟨apart, different⟩, later⟩ := List.forall_mem_cons.1 others
      rw [List.foldl_cons]
      exact (induction (Round.sound_turn sound other) later).trans
        (held_turn sound apart different)

/-- Of each profile a round leaves what the turn of the profile leaves. -/
theorem held_foldl_turn_of_mem {order : List ProfileKey}
    (sound : round.manager.Sound) (distinct : order.Nodup)
    (apart : ∀ key ∈ order, ∀ other ∈ order,
      LawfulStore.Apart σ α key other) (member : key ∈ order) :
    let after := order.foldl
      (Round.turn settings resolver repository clock) round
    let alone := round.turn settings resolver repository clock key
    after.manager.held after.store key =
      alone.manager.held alone.store key := by
  have first : order.Perm (key :: order.erase key) :=
    List.perm_cons_erase member
  rw [foldl_turn_of_perm first sound apart, List.foldl_cons]
  refine held_foldl_turn (Round.sound_turn sound key) fun other rest => ?_
  obtain ⟨different, listed⟩ := (distinct.mem_erase_iff).1 rest
  exact ⟨apart other listed key member, different⟩

omit [SeparateStore σ α] [OrderedScalar α]

theorem turn_seeded (orderless : Estimator.Orderless α)
    (room : ∀ profiler, round.manager.registry.find? key = some profiler →
      profiler.HasRoom resolver) (hashes : Hashes) :
    round.turn settings resolver (repository.seeded hashes) clock key =
      round.turn settings resolver repository clock key := by
  cases known : round.manager.registry.find? key with
  | none => rw [Round.turn_of_absent known, Round.turn_of_absent known]
  | some profiler =>
      rw [Round.turn_of_known known, Round.turn_of_known known,
        Profiler.profile_seeded orderless (room profiler known)]

/-- Without rounding a round does not depend on the order of the answers. -/
theorem foldl_turn_seeded (orderless : Estimator.Orderless α)
    {order : List ProfileKey} (distinct : order.Nodup)
    (room : ∀ key ∈ order, ∀ profiler,
      round.manager.registry.find? key = some profiler →
        profiler.HasRoom resolver) (hashes : Hashes) :
    order.foldl
        (Round.turn settings resolver (repository.seeded hashes) clock)
        round =
      order.foldl (Round.turn settings resolver repository clock) round := by
  induction order generalizing round with
  | nil => rw [List.foldl_nil, List.foldl_nil]
  | cons key order induction =>
      obtain ⟨fresh, distinct⟩ := List.nodup_cons.1 distinct
      obtain ⟨own, others⟩ := List.forall_mem_cons.1 room
      rw [List.foldl_cons, List.foldl_cons, turn_seeded orderless own]
      refine induction distinct fun other later profiler known => ?_
      have different : other ≠ key := ne_of_mem_of_not_mem later fresh
      exact others other later profiler
        ((Round.find?_turn_of_ne different).symm.trans known)

end Turns

end Manager

namespace Engine

open Manager (Held)

variable {σ α : Type} [CheckpointStore σ α]

/-- What there is of a profile in an engine. -/
def held (engine : Engine σ α) (key : ProfileKey) : Held α :=
  engine.manager.held engine.store key

/-- The keys that an operation is about. -/
def concerns (engine : Engine σ α) : Operation α → List ProfileKey
  | .register _ key _ => [key]
  | .unregister key => [key]
  | .runRound _ _ => engine.manager.keys
  | .collectGarbage now =>
      (engine.manager.condemned now engine.settings.checkpointGrace
        engine.store).map Checkpoint.Info.key
  | _ => []

variable [Analytic α]

/-- A round in which the profiles take turns in some order.  The hashes of
the answers that a profile gets do not depend on when its turn comes. -/
def runInOrder (engine : Engine σ α) (clock : ProfileKey → Instant)
    (order : List ProfileKey) (hashes : Hashes := .equal) :
    Manager.Round σ α :=
  engine.manager.runInOrder engine.settings.profiler engine.resolver
    (engine.repository.seeded hashes) clock engine.store engine.telemetry
    order

theorem runRound_eq_runInOrder (engine : Engine σ α) (now : Instant)
    (hashes : Hashes) :
    let round := engine.runInOrder (fun _ => now) engine.manager.keys hashes
    engine.runRound now hashes =
      ({ engine with
          manager := round.manager
          store := round.store
          telemetry := round.telemetry }, round.summary) := rfl

variable [SeparateStore σ α] [OrderedScalar α] {engine next : Engine σ α}
  {key : ProfileKey}

/-- An operation leaves the profiles alone that it does not concern. -/
theorem held_of_carryOut (sound : engine.manager.Sound)
    {operation : Operation α}
    (carried : engine.carryOut operation = .ok next)
    (others : ∀ other ∈ engine.concerns operation,
      LawfulStore.Apart σ α other key ∧ other ≠ key) :
    next.held key = engine.held key := by
  have install (manager : Manager α) (other : ProfileKey)
      (profiler : Profiler α) (different : other ≠ key) :
      (manager.install other profiler).held engine.store key =
        manager.held engine.store key := by
    simp only [Manager.held, Manager.install,
      SortedMap.find?_insert_of_ne _ _ (Ne.symm different)]
  obtain ⟨-, change⟩ := change_of_carryOut carried
  cases change with
  | nothing _ manager store => rw [held, held, manager, store]
  | started manager store =>
      rw [held, held, manager, store]
      rfl
  | registered registered manager store =>
      obtain ⟨-, different⟩ := others _ (List.mem_singleton_self _)
      obtain ⟨-, profiler, installed⟩ :=
        Manager.install_of_register registered
      rw [held, held, manager, store, installed, install _ _ _ different]
  | unregistered removed store =>
      obtain ⟨-, different⟩ := others _ (List.mem_singleton_self _)
      rw [held, held, store, Manager.eq_erase_of_unregister removed]
      simp only [Manager.held, SortedMap.find?_erase,
        if_neg (Ne.symm different)]
  | ran now hashes manager store =>
      rw [held, manager, store]
      exact Manager.held_foldl_turn sound others
  | @collected now count manager collected =>
      have deleted := congrArg Prod.fst (Manager.foldl_condemned collected)
      have loaded := Manager.load_foldl_deleteOne
        (fun info member => others _ (List.mem_map_of_mem member))
        engine.store 0
      rw [← deleted] at loaded
      simp only [held, Manager.held, manager, loaded]

variable {start : Engine σ α}

/-- A round leaves the same behind in whatever order the profiles take their
turns, however the answers that each of them gets list their pods, and of each
profile what its own turn leaves.  Without rounding, the answers of two rounds
may even list their pods differently.  Turns and operations that do not concern
a key leave its profiler, its result and its checkpoint as they are. -/
theorem keys_isolated (fresh : start.Fresh)
    {operations : List (Operation α)}
    (ran : start.run operations = .ok engine) {places : List ProfileKey}
    (apart : ∀ key ∈ places, ∀ other ∈ places,
      LawfulStore.Apart σ α key other)
    (registered : engine.manager.keys ⊆ places) :
    (∀ clock hashes left right, left.Perm engine.manager.keys →
      right.Perm engine.manager.keys →
        engine.runInOrder clock left hashes =
          engine.runInOrder clock right hashes) ∧
    (Estimator.Orderless α →
      (∀ key profiler,
        engine.manager.registry.find? key = some profiler →
          profiler.HasRoom engine.resolver) →
      ∀ clock hashes others left right, left.Perm engine.manager.keys →
        right.Perm engine.manager.keys →
          engine.runInOrder clock left hashes =
            engine.runInOrder clock right others) ∧
    (∀ now hashes order, order.Perm engine.manager.keys →
      let round := engine.runInOrder (fun _ => now) order hashes
      engine.runRound now hashes =
        ({ engine with
            manager := round.manager
            store := round.store
            telemetry := round.telemetry }, round.summary)) ∧
    (∀ clock hashes order key, order.Perm engine.manager.keys →
      key ∈ engine.manager.keys →
        let after := engine.runInOrder clock order hashes
        let alone := engine.runInOrder clock [key] hashes
        after.manager.held after.store key =
          alone.manager.held alone.store key) ∧
    (∀ clock hashes order key, order ⊆ places → key ∈ places → key ∉ order →
      let after := engine.runInOrder clock order hashes
      after.manager.held after.store key = engine.held key) ∧
    ∀ operation next key, engine.carryOut operation = .ok next →
      key ∈ places → engine.concerns operation ⊆ places →
        key ∉ engine.concerns operation →
          next.held key = engine.held key := by
  have initial : start.manager.Sound := by
    rw [fresh.manager]
    exact Manager.sound_initial
  have sound : engine.manager.Sound :=
    run_invariant (fun _ _ _ => sound_carryOut) initial ran
  have inOrder {order : List ProfileKey}
      (whole : order.Perm engine.manager.keys) :
      ∀ key ∈ order, ∀ other ∈ order, LawfulStore.Apart σ α key other :=
    fun key listed other member =>
      apart key (registered (whole.mem_iff.1 listed)) other
        (registered (whole.mem_iff.1 member))
  have others {keys : List ProfileKey} {key : ProfileKey}
      (within : keys ⊆ places) (housed : key ∈ places)
      (outside : key ∉ keys) : ∀ other ∈ keys,
        LawfulStore.Apart σ α other key ∧ other ≠ key :=
    fun other member => ⟨apart other (within member) key housed,
      ne_of_mem_of_not_mem member outside⟩
  have ordered (clock : ProfileKey → Instant) (hashes : Hashes)
      (left right : List ProfileKey)
      (leftWhole : left.Perm engine.manager.keys)
      (rightWhole : right.Perm engine.manager.keys) :
      engine.runInOrder clock left hashes =
        engine.runInOrder clock right hashes :=
    Manager.foldl_turn_of_perm (leftWhole.trans rightWhole.symm) sound
      (inOrder leftWhole)
  refine ⟨ordered, ?_, ?_, ?_, ?_, ?_⟩
  · intro orderless room clock hashes others left right leftWhole rightWhole
    rw [ordered clock hashes left right leftWhole rightWhole]
    have distinct : right.Nodup :=
      rightWhole.nodup_iff.2 engine.manager.registry.keys_nodup
    have seeded (hashes : Hashes) : engine.runInOrder clock right hashes =
        engine.runInOrder clock right engine.repository.hashes :=
      Manager.foldl_turn_seeded orderless distinct (fun key _ => room key)
        hashes
    exact (seeded hashes).trans (seeded others).symm
  · intro now hashes order whole round
    have same := ordered (fun _ => now) hashes _ order (.refl _) whole
    rw [runRound_eq_runInOrder, same]
  · intro clock hashes order key whole member
    exact Manager.held_foldl_turn_of_mem sound
      (whole.nodup_iff.2 engine.manager.registry.keys_nodup)
      (inOrder whole) (whole.mem_iff.2 member)
  · intro clock hashes order key within housed outside
    exact Manager.held_foldl_turn sound (others within housed outside)
  · intro operation next key carried housed within outside
    exact held_of_carryOut sound carried (others within housed outside)

open StoreCall (metricsKey stem_web_ne_db)
open Profiler.Overlap (pod spec)

/-- A cluster with two deployments that cover the same pod. -/
def twoDeployments : Cluster :=
  ⟨SortedMap.ofList (["db", "web"].map fun name =>
      (⟨"Deployment", "default", name⟩, ⟨some ⟨∅, []⟩, ⟨∅, ["app"]⟩⟩)),
    [pod]⟩

/-- An engine with filled caches and an empty directory. -/
def filed : Engine Directory Float :=
  { settings := overlapStart.settings
    repository := overlapStart.repository
    resolver := ⟨[], Cache.empty.replace ⟨0, 0⟩ twoDeployments⟩
    store := ⟨"/checkpoints", .absent⟩
    manager := .initial
    publisher := .initial
    telemetry := .zero }

open Exact in
/-- Two profiles that both write checkpoints can take their turns in either
order, and one of them stays as it is when the other one is removed. -/
theorem two_profiles_isolated :
    let order := [metricsKey "db", metricsKey "web"]
    let writes (engine : Engine Directory Float) (key : ProfileKey) : Bool :=
      (engine.manager.written? engine.settings.profiler engine.resolver
        engine.repository ⟨100, 0⟩ key).isSome
    ∃ engine,
      filed.run (.tryStart :: order.map fun key =>
        .register ⟨10, 0⟩ key (spec [.metricsApi])) = .ok engine ∧
      engine.manager.keys = order ∧ order.all (writes engine) = true ∧
      (∀ hashes, engine.runInOrder (fun _ => ⟨100, 0⟩) order hashes =
        engine.runInOrder (fun _ => ⟨100, 0⟩) order.reverse hashes) ∧
      Estimator.Orderless ℝ ∧
      ∀ next, engine.carryOut (.unregister (metricsKey "db")) = .ok next →
        next.held (metricsKey "web") = engine.held (metricsKey "web") := by
  intro order writes
  let operations : List (Operation Float) :=
    .tryStart :: order.map fun key =>
      .register ⟨10, 0⟩ key (spec [.metricsApi])
  have seen : ((filed.run operations).toOption.map fun engine =>
      (engine.manager.keys, order.all (writes engine))) =
        some (order, true) := by
    decide +kernel
  obtain ⟨engine, completed, same⟩ := Option.map_eq_some_iff.1 seen
  obtain ⟨keys, written⟩ := Prod.mk.inj same
  have ran := toOption_eq_some_iff.1 completed
  have apart : ∀ key ∈ order, ∀ other ∈ order,
      LawfulStore.Apart Directory Float key other :=
    Directory.apart_of_separates
      (Digest.separates_pair stem_web_ne_db.symm)
  obtain ⟨ordered, -, -, -, -, kept⟩ := keys_isolated ⟨rfl, rfl⟩ ran apart
    (keys ▸ List.Subset.refl _)
  rw [keys] at ordered
  refine ⟨engine, ran, keys, written,
    fun hashes => ordered _ hashes _ _ (.refl _) (.swap _ _ _),
    Estimator.orderless_of_exact, fun next carried => ?_⟩
  have other : metricsKey "web" ≠ metricsKey "db" := by decide
  exact kept _ next _ carried (by simp [order])
    (by simp [concerns, order]) (by simpa [concerns] using other)

end Engine

end UsageForecast
