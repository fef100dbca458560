import UsageForecast.Proofs.SoundManager
import UsageForecast.Proofs.StoreLaws

/-!
# The effect of a round

A round runs one cycle of each registered profile.  What a cycle makes of its
profiler does not depend on the store, so the registry after a round is the
registry before it, with every profiler advanced.  A store that mirrors a map
of checkpoints ends up with those that the completed cycles have written.
-/

namespace UsageForecast

namespace Profiler

variable {σ α : Type} [Analytic α]

section

variable (settings : Settings α) (resolver : Resolver)
  (repository : Repository α) (now : Instant) (profiler : Profiler α)

/-- What a cycle makes of a profiler. -/
def cycled : Profiler α :=
  match resolver.pods profiler.key.target with
  | .error _ => profiler
  | .ok pods =>
      let next := profiler.advance settings resolver repository now pods
      if next.Reportable then next.publish else next

/-- The checkpoint that a cycle writes, if it gets that far. -/
def written? : Option (Checkpoint α) :=
  match resolver.pods profiler.key.target with
  | .error _ => none
  | .ok pods =>
      let next := profiler.advance settings resolver repository now pods
      if next.Reportable then some (next.checkpoint now) else none

end

variable [CheckpointStore σ α] {settings : Settings α}
  {resolver : Resolver} {repository : Repository α} {now : Instant}
  {profiler : Profiler α} {store : σ}

variable (settings resolver repository now profiler store) in
theorem profile_effect :
    let cycle := profiler.profile settings resolver repository now store
    cycle.profiler = profiler.cycled settings resolver repository now ∧
      cycle.store =
        match profiler.written? settings resolver repository now with
        | some checkpoint => (CheckpointStore.save store checkpoint).1
        | none => store := by
  intro cycle
  rw [cycled, written?]
  rcases profile_cases settings resolver repository now profiler store with
    ⟨failure, unresolved, same, kept, -⟩ | ⟨pods, resolved, ended⟩
  · rw [unresolved]
    exact ⟨same, kept⟩
  · rw [resolved]
    rcases ended with ⟨reportable, published, stored, -⟩ |
      ⟨stopped, halted, kept, -⟩
    · simp only [if_pos reportable]
      exact ⟨published, stored⟩
    · simp only [if_neg stopped]
      exact ⟨halted, kept⟩

theorem spec_cycled :
    (profiler.cycled settings resolver repository now).spec =
      profiler.spec := by
  unfold cycled
  cases resolver.pods profiler.key.target with
  | error failure => rfl
  | ok pods =>
      dsimp only
      split
      · rfl
      · rfl

/-- A completed cycle writes what it leaves behind. -/
theorem written?_of_samples {samples : Nat}
    (completed : (profiler.profile settings resolver repository now
      store).samples? = some samples) :
    profiler.written? settings resolver repository now =
      some ((profiler.cycled settings resolver repository now).checkpoint
        now) := by
  obtain ⟨pods, resolved, reportable, -⟩ := profile_of_samples completed
  simp only [written?, cycled, resolved, if_pos reportable]
  rfl

theorem key_of_written {checkpoint : Checkpoint α}
    (written : profiler.written? settings resolver repository now =
      some checkpoint) : checkpoint.key = profiler.key := by
  unfold written? at written
  cases resolved : resolver.pods profiler.key.target with
  | error failure =>
      rw [resolved] at written
      cases written
  | ok pods =>
      simp only [resolved, Option.ite_none_right_eq_some,
        Option.some.injEq] at written
      obtain ⟨-, rfl⟩ := written
      rfl

end Profiler

namespace Manager

variable {σ α : Type} [Analytic α] [CheckpointStore σ α]
  {settings : Profiler.Settings α} {resolver : Resolver}
  {repository : Repository α} {now : Instant}

variable (settings resolver repository now) in
theorem find?_step (round : Round σ α) (key other : ProfileKey) :
    (round.step settings resolver repository now
      key).manager.registry.find? other =
        if other = key then
          (round.manager.registry.find? other).map
            (Profiler.cycled settings resolver repository now)
        else round.manager.registry.find? other := by
  unfold Round.step
  cases known : round.manager.registry.find? key with
  | none =>
      by_cases same : other = key
      · simp [same, known]
      · simp [same]
  | some profiler =>
      obtain ⟨advanced, -⟩ := Profiler.profile_effect settings resolver
        repository now profiler round.store
      by_cases same : other = key
      · simp [Round.add, same, known, advanced]
      · simp [Round.add, SortedMap.find?_insert, same]

/-- Each of some profiles is advanced once. -/
theorem find?_foldl_step {keys : List ProfileKey} (distinct : keys.Nodup)
    (round : Round σ α) (key : ProfileKey) :
    (keys.foldl (Round.step settings resolver repository now)
      round).manager.registry.find? key =
        if key ∈ keys then
          (round.manager.registry.find? key).map
            (Profiler.cycled settings resolver repository now)
        else round.manager.registry.find? key := by
  induction keys generalizing round with
  | nil => rfl
  | cons first keys induction =>
      obtain ⟨fresh, distinct⟩ := List.nodup_cons.1 distinct
      rw [List.foldl_cons, induction distinct, find?_step]
      by_cases same : key = first
      · subst same
        simp [fresh]
      · simp [same]

variable (settings resolver repository now) in
/-- Every registered profile is advanced once, and nothing else happens to
the registry. -/
theorem find?_runRound (manager : Manager α) (store : σ)
    (telemetry : Telemetry) (key : ProfileKey) :
    (manager.runRound settings resolver repository now store
      telemetry).manager.registry.find? key =
        (manager.registry.find? key).map
          (Profiler.cycled settings resolver repository now) := by
  have distinct : manager.keys.Nodup := manager.registry.keys_nodup
  rw [runRound, find?_foldl_step distinct]
  split
  next => rfl
  next absent =>
    have unknown : manager.registry.find? key = none :=
      SortedMap.find?_eq_none_iff.2 absent
    rw [unknown, Option.map_none]

theorem started_runRound (manager : Manager α)
    (settings : Profiler.Settings α) (resolver : Resolver)
    (repository : Repository α) (now : Instant) (store : σ)
    (telemetry : Telemetry) :
    (manager.runRound settings resolver repository now store
      telemetry).manager.started = manager.started := by
  have step (round : Round σ α) (key : ProfileKey) :
      (round.step settings resolver repository now
        key).manager.started = round.manager.started := by
    unfold Round.step
    split
    · rfl
    · rfl
  have all (keys : List ProfileKey) (round : Round σ α) :
      (keys.foldl (Round.step settings resolver repository now)
        round).manager.started = round.manager.started := by
    induction keys generalizing round with
    | nil => rfl
    | cons key keys induction => rw [List.foldl_cons, induction, step]
  exact all _ _

/-- What the next cycle of a key writes. -/
def written? (settings : Profiler.Settings α) (resolver : Resolver)
    (repository : Repository α) (now : Instant) (manager : Manager α)
    (key : ProfileKey) : Option (Checkpoint α) :=
  (manager.registry.find? key).bind
    (Profiler.written? settings resolver repository now)

variable (settings resolver repository now) in
theorem store_step (round : Round σ α) (key : ProfileKey) :
    (round.step settings resolver repository now key).store =
      match written? settings resolver repository now round.manager key with
      | some checkpoint => (CheckpointStore.save round.store checkpoint).1
      | none => round.store := by
  unfold Round.step
  cases known : round.manager.registry.find? key with
  | none => rw [written?, known, Option.bind_none]
  | some profiler =>
      rw [written?, known, Option.bind_some]
      exact (Profiler.profile_effect settings resolver repository now
        profiler round.store).2

variable [OrderedScalar α] [LawfulStore σ α]

/-- The manager is sound, and each key in use has a place of its own in the
store. -/
structure Housed (places : List ProfileKey) (manager : Manager α)
    (store : σ) (map : MemoryStore α) : Prop where
  sound : manager.Sound
  mirrors : LawfulStore.Mirrors store map
  apart : ∀ key ∈ places, ∀ other ∈ places,
    LawfulStore.Apart (σ := σ) (α := α) key other
  registered : manager.keys ⊆ places
  held : map.keys ⊆ places

variable {places : List ProfileKey} {map : MemoryStore α}
  {round : Round σ α}

theorem Housed.advanced (housed : Housed places round.manager round.store
    map) {key : ProfileKey} {next : MemoryStore α}
    (mirrors : LawfulStore.Mirrors
      (round.step settings resolver repository now key).store next)
    (held : next.keys ⊆ places) :
    Housed places
      (round.step settings resolver repository now key).manager
      (round.step settings resolver repository now key).store next where
  sound := housed.sound.step key
  mirrors := mirrors
  apart := housed.apart
  registered := by
    intro other listed
    apply housed.registered
    change other ∈ SortedMap.keys _ at listed
    change other ∈ SortedMap.keys _
    rw [SortedMap.mem_keys_iff, find?_step] at listed
    rw [SortedMap.mem_keys_iff]
    split at listed
    · rwa [Option.isSome_map] at listed
    · exact listed
  held := held

/-- A cycle of a key saves what it writes. -/
theorem Housed.step
    (housed : Housed places round.manager round.store map)
    {key : ProfileKey}
    (storable : ∀ checkpoint, written? settings resolver repository now
      round.manager key = some checkpoint →
        LawfulStore.Storable (σ := σ) checkpoint) :
    let after := round.step settings resolver repository now key
    ∃ next, Housed places after.manager after.store next ∧
      ∀ other, next.find? other =
        if other = key then
          (written? settings resolver repository now round.manager key).or
            (map.find? other)
        else map.find? other := by
  intro after
  cases writes : written? settings resolver repository now round.manager
      key with
  | none =>
      have unchanged : after.store = round.store := by
        rw [store_step, writes]
      refine ⟨map, housed.advanced (unchanged ▸ housed.mirrors) housed.held,
        fun other => ?_⟩
      rw [Option.none_or, ite_self]
  | some checkpoint =>
      obtain ⟨profiler, known, written⟩ := Option.bind_eq_some_iff.1 writes
      have named : checkpoint.key = key :=
        (Profiler.key_of_written written).trans
          (housed.sound.profilers key profiler known).key_eq
      have listed : key ∈ places :=
        housed.registered (SortedMap.mem_keys_of_find? known)
      obtain ⟨store, saved, mirrors⟩ := LawfulStore.save_eq housed.mirrors
        (storable checkpoint writes) fun other member =>
          housed.apart _ (named ▸ listed) other (housed.held member)
      have stored : after.store = store := by
        rw [store_step, writes]
        exact congrArg Prod.fst saved
      refine ⟨map.save checkpoint, housed.advanced (stored ▸ mirrors) ?_,
        fun other => ?_⟩
      · intro other member
        rcases SortedMap.mem_keys_insert_iff.1 member with same | earlier
        · rw [same, named]
          exact listed
        · exact housed.held earlier
      · rw [MemoryStore.save, SortedMap.find?_insert, named,
          Option.some_or]

omit [OrderedScalar α] [LawfulStore σ α] in
theorem written?_step {key other : ProfileKey} (different : other ≠ key) :
    written? settings resolver repository now
        (round.step settings resolver repository now key).manager other =
      written? settings resolver repository now round.manager other := by
  rw [written?, find?_step, if_neg different, written?]

/-- A cycle of each of some keys saves what it writes. -/
theorem Housed.foldl_step
    (housed : Housed places round.manager round.store map)
    {keys : List ProfileKey} (distinct : keys.Nodup)
    (storable : ∀ key ∈ keys, ∀ checkpoint,
      written? settings resolver repository now round.manager key =
          some checkpoint →
        LawfulStore.Storable (σ := σ) checkpoint) :
    let after := keys.foldl (Round.step settings resolver repository now)
      round
    ∃ next, Housed places after.manager after.store next ∧
      ∀ key, next.find? key =
        if key ∈ keys then
          (written? settings resolver repository now round.manager key).or
            (map.find? key)
        else map.find? key := by
  induction keys generalizing round map with
  | nil => exact ⟨map, housed, fun _ => rfl⟩
  | cons first keys induction =>
      obtain ⟨fresh, distinct⟩ := List.nodup_cons.1 distinct
      obtain ⟨between, advanced, effect⟩ :=
        housed.step (storable first List.mem_cons_self)
      have later : ∀ key ∈ keys, ∀ checkpoint,
          written? settings resolver repository now
              (round.step settings resolver repository now first).manager
              key = some checkpoint →
            LawfulStore.Storable (σ := σ) checkpoint := by
        intro key member checkpoint writes
        rw [written?_step (ne_of_mem_of_not_mem member fresh)] at writes
        exact storable key (List.mem_cons_of_mem _ member) checkpoint writes
      obtain ⟨next, ended, others⟩ := induction advanced distinct later
      refine ⟨next, ended, fun key => ?_⟩
      rw [others, effect]
      by_cases same : key = first
      · simp [same, fresh]
      · simp [same, written?_step]

/-- A round saves what its cycles write. -/
theorem Housed.runRound
    {manager : Manager α} {store : σ}
    (housed : Housed places manager store map)
    (storable : ∀ key checkpoint,
      written? settings resolver repository now manager key =
          some checkpoint →
        LawfulStore.Storable (σ := σ) checkpoint)
    (telemetry : Telemetry) :
    let after := manager.runRound settings resolver repository now store
      telemetry
    ∃ next, Housed places after.manager after.store next ∧
      ∀ key, next.find? key =
        (written? settings resolver repository now manager key).or
          (map.find? key) := by
  intro after
  let start : Round σ α :=
    ⟨manager, store, telemetry, ⟨manager.size, 0, 0, 0⟩⟩
  have began : Housed places start.manager start.store map := housed
  obtain ⟨next, ended, effect⟩ :=
    began.foldl_step manager.registry.keys_nodup
      fun key _ checkpoint => storable key checkpoint
  refine ⟨next, ended, fun key => ?_⟩
  rw [effect]
  split
  next => rfl
  next absent =>
    have unknown : manager.registry.find? key = none :=
      SortedMap.find?_eq_none_iff.2 absent
    rw [written?, unknown, Option.bind_none, Option.none_or]

end Manager

end UsageForecast
