import UsageForecast.Proofs.PublishingRound
import UsageForecast.Proofs.SoundManager

/-!
# What owners show

A deployment is an engine together with what the owners of its profiles show.
The publisher remembers the last body of each key, but not the owner that it
was written to.  If a profile gets another owner and its body stays the same,
the new owner is missed: nothing is written to it.  This is the only way in
which a round of successful writes can leave an owner behind.
-/

namespace UsageForecast

/-- An engine, and the bodies that owners show. -/
structure Deployment (σ α : Type) where
  engine : Engine σ α
  shown : SortedMap Owner Body

namespace Deployment

variable {σ α : Type}

/-- The registered profiles as they are handed to the publisher. -/
def statuses (deployment : Deployment σ α) : List (Manager.Status α) :=
  deployment.engine.manager.statuses

/-- A key is registered with an owner. -/
def Names (deployment : Deployment σ α) (key : ProfileKey)
    (owner : Owner) : Prop :=
  ∃ status ∈ deployment.statuses, status.key = key ∧
    status.owner = some owner

/-- No two profiles ever name the same owner. -/
def Exclusive (visited : List (Deployment σ α)) : Prop :=
  ∀ left ∈ visited, ∀ right ∈ visited,
    Publisher.Exclusive left.statuses right.statuses

/-- Every body that is remembered for a key is shown by an owner that the key
has named. -/
def Traced (visited : List (Deployment σ α))
    (current : Deployment σ α) : Prop :=
  ∀ key body,
    current.engine.publisher.written.find? key = some body →
      ∃ point ∈ visited, ∃ owner, point.Names key owner ∧
        current.shown.find? owner = some body

variable {start current next : Deployment σ α}
  {earlier visited : List (Deployment σ α)}

theorem Traced.mono (traced : Traced visited current)
    (publisher : next.engine.publisher = current.engine.publisher)
    (shown : next.shown = current.shown) :
    Traced (next :: visited) next := by
  intro key body remembered
  rw [publisher] at remembered
  obtain ⟨point, member, owner, named, seen⟩ := traced key body remembered
  rw [shown]
  exact ⟨point, List.mem_cons_of_mem _ member, owner, named, seen⟩

section

variable [Scalar α]

/-- One round of publishing, and what owners show after it. -/
def publish (deployment : Deployment σ α)
    (write : Publisher.Write → Bool) : Deployment σ α × Publisher.Round :=
  let (engine, round) := deployment.engine.publish write
  (⟨engine, Publisher.record deployment.shown round.writes⟩, round)

/-- The publisher takes a body to be shown that the owner does not show. -/
def Missed (deployment : Deployment σ α) (status : Manager.Status α)
    (owner : Owner) : Prop :=
  let body := Body.ofResult status.result
  deployment.engine.publisher.written.find? status.key = some body ∧
    deployment.shown.find? owner ≠ some body

instance (deployment : Deployment σ α) (status : Manager.Status α)
    (owner : Owner) : Decidable (deployment.Missed status owner) :=
  inferInstanceAs (Decidable (_ ∧ _))

theorem Traced.publish (traced : Traced (current :: earlier) current)
    (exclusive : Exclusive (current :: earlier))
    (write : Publisher.Write → Bool) :
    Traced ((current.publish write).1 :: current :: earlier)
      (current.publish write).1 := by
  cases started : current.engine.manager.started with
  | false =>
      have idle : current.engine.publisher.publish current.engine.manager
          write current.engine.telemetry =
            ⟨current.engine.publisher, current.engine.telemetry,
              ⟨0, 0, 0⟩, []⟩ :=
        if_neg (by simp [started])
      apply traced.mono
      · simp [Deployment.publish, Engine.publish, idle]
      · simp [Deployment.publish, Engine.publish, idle, Publisher.record]
  | true =>
      intro key body remembered
      have here : current ∈ current :: earlier := List.mem_cons_self
      rcases Publisher.remembered_after_publish current.shown
        started (exclusive current here current here) remembered with
        ⟨status, member, owner, same, owned, seen⟩ | ⟨before, unchanged⟩
      · exact ⟨current, List.mem_cons_of_mem _ here, owner,
          ⟨status, member, same, owned⟩, seen⟩
      · obtain ⟨point, visited, owner, named, seen⟩ :=
          traced key body before
        refine ⟨point, List.mem_cons_of_mem _ visited, owner, named, ?_⟩
        refine (unchanged owner ?_).trans seen
        intro rival listed owned
        obtain ⟨status, member, same, naming⟩ := named
        rw [← same]
        exact (exclusive point visited current here status member rival
          listed (by rw [naming]; rfl) (naming.trans owned.symm)).symm

end

variable [Analytic α] [CheckpointStore σ α]

/-- Carry out one operation; only publishing changes what owners show. -/
def carryOut (deployment : Deployment σ α) :
    Engine.Operation α → Except Crash (Deployment σ α)
  | .publish write => .ok (deployment.publish write).1
  | operation => do
      return { deployment with
        engine := ← deployment.engine.carryOut operation }

/-- The deployments that a run has visited, the latest first. -/
inductive History (start : Deployment σ α) :
    List (Deployment σ α) → Prop where
  | start : History start [start]
  | step {current next : Deployment σ α} {earlier : List (Deployment σ α)}
      {operation : Engine.Operation α} :
      History start (current :: earlier) →
      current.carryOut operation = .ok next →
      History start (next :: current :: earlier)

theorem carryOut_of_other {operation : Engine.Operation α}
    (other : ∀ write, operation ≠ .publish write)
    (carried : current.carryOut operation = .ok next) :
    next.engine.publisher = current.engine.publisher ∧
      next.shown = current.shown := by
  have engine : ∃ engine, current.engine.carryOut operation = .ok engine ∧
      next = { current with engine } := by
    cases operation with
    | publish write => exact absurd rfl (other write)
    | _ =>
        obtain ⟨engine, advanced, same⟩ := bind_eq_ok_iff.1 carried
        cases same
        exact ⟨engine, advanced, rfl⟩
  obtain ⟨engine, advanced, rfl⟩ := engine
  exact ⟨Engine.publisher_of_carryOut other advanced, rfl⟩

/-- Along every run in which owners are not shared, what is remembered for a
key is shown by an owner that the key has named. -/
theorem History.traced (history : History start visited)
    (fresh : start.engine.publisher = .initial)
    (exclusive : Exclusive visited) :
    ∀ current earlier, visited = current :: earlier →
      Traced visited current := by
  induction history with
  | start =>
      rintro current earlier same key body remembered
      obtain ⟨rfl, -⟩ := List.cons.inj same
      rw [fresh] at remembered
      cases remembered
  | @step current next earlier operation history carried induction =>
      rintro last others same
      obtain ⟨rfl, rfl⟩ := List.cons.inj same
      have before : Exclusive (current :: earlier) := by
        intro left leftMember right rightMember
        exact exclusive left (List.mem_cons_of_mem _ leftMember) right
          (List.mem_cons_of_mem _ rightMember)
      have traced := induction before current earlier rfl
      by_cases publishing : ∃ write, operation = .publish write
      · obtain ⟨write, rfl⟩ := publishing
        cases carried
        exact traced.publish before write
      · have other : ∀ write, operation ≠ .publish write := by
          intro write same
          exact publishing ⟨write, same⟩
        obtain ⟨publisher, shown⟩ := carryOut_of_other other carried
        exact traced.mono publisher shown

/-- A round accounts for every registered profile that has an owner.  After a
round all of whose writes succeed the next one writes nothing, and exactly the
owners that were missed do not show the current body.  An owner is only missed
if the key has named another owner, which shows that body. -/
theorem shown_iff_not_missed
    (history : History start (current :: earlier))
    (fresh : start.engine.publisher = .initial)
    (exclusive : Exclusive (current :: earlier))
    (started : current.engine.manager.started = true)
    (write : Publisher.Write → Bool) :
    let (next, round) := current.publish write
    round.summary.written + round.summary.unchanged +
        round.summary.failed =
      (current.statuses.filter fun status => status.owner.isSome).length ∧
    ((∀ attempt ∈ round.writes, attempt.2 = true) →
      (∀ status ∈ current.statuses, ∀ owner, status.owner = some owner →
        (next.shown.find? owner = some (Body.ofResult status.result) ↔
          ¬ current.Missed status owner)) ∧
      ∀ again, (next.publish again).2.writes = []) ∧
    ∀ status ∈ current.statuses, ∀ owner, status.owner = some owner →
      current.Missed status owner →
        ∃ point ∈ current :: earlier, ∃ other, point.Names status.key other ∧
          other ≠ owner ∧
          current.shown.find? other = some (Body.ofResult status.result) := by
  have here : current ∈ current :: earlier := List.mem_cons_self
  have alone := exclusive current here current here
  refine ⟨Publisher.publish_total started, ?_, ?_⟩
  · intro written
    refine ⟨?_, fun again => Publisher.publish_again started alone written⟩
    intro status member owner owned
    have shown := (Publisher.publish_of_all_written current.shown started
      alone written member owned).2
    change (Publisher.record current.shown _).find? owner = _ ↔ _
    rw [shown]
    by_cases remembered : current.engine.publisher.written.find?
        status.key = some (Body.ofResult status.result)
    · rw [Publisher.requestOf, if_pos remembered]
      simp [Missed, remembered]
    · rw [Publisher.requestOf, if_neg remembered]
      simp [Missed, remembered]
  · intro status member owner owned missed
    obtain ⟨point, visited, other, named, seen⟩ :=
      history.traced fresh exclusive current earlier rfl status.key _
        missed.1
    refine ⟨point, visited, other, named, ?_, seen⟩
    rintro rfl
    exact missed.2 seen

/-!
## A profile that changes its owner

One profile gets another owner after its body, still without any entries, has
been published.
-/

namespace Handover

def initial : Deployment (MemoryStore Float) Float :=
  ⟨Engine.overlapStart, ∅⟩

def key : ProfileKey := (Profiler.Overlap.profiler [.metricsApi]).key

/-- Register the profile with an owner of a given name. -/
def register (name : String) : Engine.Operation Float :=
  .register ⟨10, 0⟩ key
    { Profiler.Overlap.spec [.metricsApi] with
      owner := some ⟨"default", name⟩ }

/-- The deployment after some operations. -/
def after (operations : List (Engine.Operation Float)) :
    Except Crash (Deployment (MemoryStore Float) Float) :=
  operations.foldlM carryOut initial

end Handover

/-- The second owner of the profile shows nothing after a round in which no
write has failed, because none was tried. -/
theorem second_owner_missed :
    (Handover.after [.tryStart, Handover.register "first",
        .publish fun _ => true, Handover.register "second"]).toOption.map
      (fun current =>
        let round := current.publish fun _ => true
        (current.statuses.map (·.owner), round.2.writes.length,
          (round.1.shown.find? ⟨"default", "first"⟩).isSome,
          (round.1.shown.find? ⟨"default", "second"⟩).isSome)) =
      some ([some ⟨"default", "second"⟩], 0, true, false) := by
  decide +kernel

namespace Handover

/-- Carry out an operation after those that led to the latest of some
deployments. -/
def visit (visited : List (Deployment (MemoryStore Float) Float))
    (operation : Engine.Operation Float) :
    Except Crash (List (Deployment (MemoryStore Float) Float)) := do
  return (← (visited.headD initial).carryOut operation) :: visited

theorem history_of_visits {operations : List (Engine.Operation Float)}
    {visited last : List (Deployment (MemoryStore Float) Float)}
    (history : History initial visited)
    (ran : operations.foldlM visit visited = .ok last) :
    History initial last := by
  induction operations generalizing visited with
  | nil =>
      cases ran
      exact history
  | cons operation operations induction =>
      obtain ⟨next, visits, rest⟩ := bind_eq_ok_iff.1 ran
      refine induction ?_ rest
      obtain ⟨reached, carried, same⟩ := bind_eq_ok_iff.1 visits
      cases same
      cases history with
      | start => exact .step .start carried
      | step before led => exact .step (.step before led) carried

/-- All profiles of some deployments with their owners. -/
def names (visited : List (Deployment (MemoryStore Float) Float)) :
    List (ProfileKey × Option Owner) :=
  visited.flatMap fun point =>
    point.statuses.map fun status => (status.key, status.owner)

theorem exclusive_of_names
    {visited : List (Deployment (MemoryStore Float) Float)}
    (apart : ∀ first ∈ names visited, ∀ second ∈ names visited,
      first.2.isSome = true → first.2 = second.2 → first.1 = second.1) :
    Exclusive visited := by
  intro left leftVisited right rightVisited first listed second found
  have named {point : Deployment (MemoryStore Float) Float}
      (member : point ∈ visited) {status : Manager.Status Float}
      (registered : status ∈ point.statuses) :
      (status.key, status.owner) ∈ names visited :=
    List.mem_flatMap.2 ⟨point, member, List.mem_map_of_mem registered⟩
  exact apart _ (named leftVisited listed) _ (named rightVisited found)

/-- A profile of whole pods, with an owner of its own. -/
def registerPods : Engine.Operation Float :=
  .register ⟨10, 0⟩ { key with level := .pod }
    { Profiler.Overlap.spec [.metricsApi] with
      owner := some ⟨"default", "third"⟩ }

/-- After a round one profile gets another owner, and another profile is
new. -/
def operations : List (Engine.Operation Float) :=
  [.tryStart, register "first", .publish fun _ => true, register "second",
    registerPods]

end Handover

/-- In the round after the handover the owner of the new profile gets its
body, and the second owner of the other one is missed, for the first one shows
the same body. -/
theorem handover_accounted :
    let second : Owner := ⟨"default", "second"⟩
    ∃ current earlier, History Handover.initial (current :: earlier) ∧
      let (next, round) := current.publish fun _ => true
      round.summary.written + round.summary.unchanged +
        round.summary.failed = 2 ∧
      (∀ status ∈ current.statuses, ∀ owner, status.owner = some owner →
        (next.shown.find? owner = some (Body.ofResult status.result) ↔
          owner ≠ second)) ∧
      (∀ again, (next.publish again).2.writes = []) ∧
      ∃ status ∈ current.statuses, status.owner = some second ∧
        ∃ point ∈ current :: earlier, ∃ other,
          point.Names status.key other ∧ other ≠ second ∧
            current.shown.find? other =
              some (Body.ofResult status.result) := by
  intro second
  have evaluated :
      (Handover.operations.foldlM Handover.visit
        [Handover.initial]).toOption.map (fun visited =>
          let current := visited.headD Handover.initial
          (decide (∀ first ∈ Handover.names visited,
              ∀ second ∈ Handover.names visited, first.2.isSome = true →
                first.2 = second.2 → first.1 = second.1),
            current.engine.manager.started,
            (current.statuses.filter fun status =>
              status.owner.isSome).length,
            decide (∀ attempt ∈ (current.publish fun _ => true).2.writes,
              attempt.2 = true),
            decide (∀ status ∈ current.statuses, ∀ owner ∈ status.owner,
              current.Missed status owner ↔ owner = second),
            decide (∃ status ∈ current.statuses,
              status.owner = some second))) =
        some (true, true, 2, true, true, true) := by
    decide +kernel
  obtain ⟨visited, visits, same⟩ := Option.map_eq_some_iff.1 evaluated
  have history : History Handover.initial visited :=
    Handover.history_of_visits .start (toOption_eq_some_iff.1 visits)
  cases visited with
  | nil => cases history
  | cons current earlier =>
      simp only [Prod.mk.injEq, decide_eq_true_iff] at same
      obtain ⟨apart, started, owners, written, missed, status, member,
        owned⟩ := same
      obtain ⟨total, shows, other⟩ := shown_iff_not_missed history rfl
        (Handover.exclusive_of_names apart) started fun _ => true
      obtain ⟨shown, again⟩ := shows written
      refine ⟨current, earlier, history, total.trans owners, ?_, again,
        status, member, owned, other status member second owned
          ((missed status member second owned).2 rfl)⟩
      intro status member owner owned
      exact (shown status member owner owned).trans
        (not_congr (missed status member owner owned))

end Deployment

end UsageForecast
