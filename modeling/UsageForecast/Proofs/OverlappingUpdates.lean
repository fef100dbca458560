import Mathlib.Data.Set.Basic
import UsageForecast.Profiler.Interleaving
import UsageForecast.Proofs.CallOrder
import UsageForecast.Proofs.RepeatedCycles
import UsageForecast.Proofs.RoundEffect

/-!
# Updates that overlap

Whatever the order in which updates and cycles take their steps, in the end a
profiler holds and has published nothing but resources that its spec asks for.
The labels may be those of another spec: the update that stored its spec last
need not be the one that the entries follow last, and no cycle puts labels
right.  Of several models of a spec only the first one gives labels.
-/

namespace UsageForecast

section

variable {α : Type}

/-- The labels that an estimator reports. -/
def Estimator.labels (estimator : Estimator α) : Set String :=
  {label | label ∈ estimator.quantiles.map Quantile.label}

def Summary.labels (summary : Summary α) : Set String :=
  {label | label ∈ summary.quantiles.keys}

theorem Estimator.labels_summary [Analytic α] (estimator : Estimator α) :
    estimator.summary.labels = estimator.labels := by
  ext label
  change label ∈ estimator.quantileValues.keys ↔ _
  rw [quantileValues, SortedMap.mem_keys_ofList, List.map_map]
  rfl

def EstimatorRequest.labels : EstimatorRequest α → List String
  | .distribution model => model.labels

namespace Spec

/-- The labels that all models of a spec ask for. -/
def listed (spec : Spec α) : Set String :=
  {label | ∃ request ∈ spec.estimators, label ∈ request.labels}

/-- The labels that estimators get which follow a spec. -/
def reported [Scalar α] (spec : Spec α) : Set String :=
  {label | label ∈ spec.quantiles.map Quantile.label}

theorem valid_of_isOk [Scalar α] {spec : Spec α}
    (checked : spec.validate.isOk = true) : spec.validate = .ok () := by
  cases outcome : spec.validate with
  | ok => rfl
  | error fault =>
      rw [outcome] at checked
      cases checked

theorem reported_eq_of_valid [Scalar α] {spec : Spec α}
    (valid : spec.validate = .ok ()) :
    spec.reported = {label | label ∈ spec.labels} := by
  rw [reported, labels_quantiles valid]

/-- The first model of a valid spec reports all labels exactly if the others
add none. -/
theorem reported_eq_listed_iff [Scalar α] {spec : Spec α}
    (valid : spec.validate = .ok ()) :
    spec.reported = spec.listed ↔
      ∀ request ∈ spec.estimators, ∀ label ∈ request.labels,
        label ∈ spec.labels := by
  rw [reported_eq_of_valid valid]
  constructor
  · intro same request requested label asked
    have inListed : label ∈ spec.listed := ⟨request, requested, asked⟩
    rwa [← same] at inListed
  · intro covered
    ext label
    constructor
    · intro reported
      obtain ⟨model, -, first, -⟩ := parsedQuantiles_of_valid valid
      obtain ⟨request, requested, chosen⟩ :=
        List.exists_of_findSome?_eq_some first
      obtain ⟨own⟩ := request
      cases chosen
      refine ⟨_, requested, ?_⟩
      change label ∈ spec.labels at reported
      rwa [labels, first] at reported
    · rintro ⟨request, requested, asked⟩
      exact covered request requested label asked

end Spec

end

namespace Profiler

variable {α : Type}

/-- A property of every resource that a profiler holds an estimator for or has
published a distribution of, and of the labels that go with it. -/
structure Throughout (property : Resource → Set String → Prop)
    (profiler : Profiler α) : Prop where
  held : profiler.Every fun resource estimator =>
    property resource estimator.labels
  published : ∀ name entry resource summary,
    profiler.result.find? name = some entry →
      entry.find? resource = some summary →
        property resource summary.labels

/-- A profiler holds and has published what its spec asks for, with the labels
that its spec lists. -/
def Conforms (profiler : Profiler α) : Prop :=
  profiler.Throughout fun resource labels =>
    profiler.spec.asksFor resource = true ∧ labels = profiler.spec.listed

section

variable {property other : Resource → Set String → Prop}
  {profiler : Profiler α}

theorem Throughout.mono (throughout : profiler.Throughout property)
    (implied : ∀ resource labels,
      property resource labels → other resource labels) :
    profiler.Throughout other where
  held name resource estimator found :=
    implied _ _ (throughout.held name resource estimator found)
  published name entry resource summary named found :=
    implied _ _ (throughout.published name entry resource summary named found)

theorem Throughout.and (first : profiler.Throughout property)
    (second : profiler.Throughout other) :
    profiler.Throughout fun resource labels =>
      property resource labels ∧ other resource labels where
  held name resource estimator found :=
    ⟨first.held name resource estimator found,
      second.held name resource estimator found⟩
  published name entry resource summary named found :=
    ⟨first.published name entry resource summary named found,
      second.published name entry resource summary named found⟩

/-- A label that the spec lists is missing. -/
theorem not_conforms (name : String) (resource : Resource)
    (labels : List String)
    (shown : (profiler.estimator? name resource).map
      (·.quantiles.map Quantile.label) = some labels)
    (missing : ∃ request ∈ profiler.spec.estimators,
      ∃ label ∈ request.labels, label ∉ labels) : ¬ profiler.Conforms := by
  intro conforms
  obtain ⟨estimator, found, rfl⟩ := Option.map_eq_some_iff.1 shown
  obtain ⟨request, requested, label, asked, absent⟩ := missing
  have listed : label ∈ profiler.spec.listed := ⟨request, requested, asked⟩
  rw [← (conforms.held name resource estimator found).2] at listed
  exact absent listed

variable [Analytic α]

theorem throughout_publish
    (held : profiler.Every fun resource estimator =>
      property resource estimator.labels) :
    profiler.publish.Throughout property where
  held := held
  published name entry resource summary named found := by
    rw [publish, summaries, SortedMap.find?_mapValues] at named
    obtain ⟨source, known, rfl⟩ := Option.map_eq_some_iff.1 named
    rw [Entry.result, SortedMap.find?_mapValues] at found
    obtain ⟨estimator, holds, rfl⟩ := Option.map_eq_some_iff.1 found
    rw [Estimator.labels_summary]
    refine held name resource estimator ?_
    rw [estimator?, known]
    exact holds

theorem Throughout.profile {σ : Type} [CheckpointStore σ α]
    (throughout : profiler.Throughout property)
    (created : ∀ resource, profiler.spec.asksFor resource = true →
      property resource profiler.spec.reported)
    (settings : Settings α) (resolver : Resolver)
    (repository : Repository α) (now : Instant) (store : σ) :
    (profiler.profile settings resolver repository now
      store).profiler.Throughout property := by
  have advanced (pods : List Pod) :
      (profiler.advance settings resolver repository now pods).Every
        fun resource estimator => property resource estimator.labels := by
    refine every_advance created ?_ ?_ throughout.held
    · intro resource estimator factor holds
      exact holds
    · intro resource estimator sample holds
      rwa [Estimator.labels, ingest_quantiles]
  rcases profile_cases settings resolver repository now profiler store with
    ⟨-, -, same, -⟩ | ⟨pods, -, ⟨-, published, -⟩ | ⟨-, stopped, -⟩⟩
  · rw [same]
    exact throughout
  · rw [published]
    exact throughout_publish (advanced pods)
  · rw [stopped]
    exact ⟨advanced pods, throughout.published⟩

/-- Entries that follow a spec keep resources that it asks for, with its
labels. -/
theorem throughout_follow (spec : Spec α)
    (held : profiler.Every fun resource _ =>
      spec.asksFor resource = true → property resource spec.reported) :
    (profiler.follow spec).Throughout property := by
  refine throughout_publish ?_
  intro name resource estimator found
  obtain ⟨earlier, kept, rfl⟩ := Option.map_eq_some_iff.1
    ((estimator?_update profiler spec name resource).symm.trans found)
  obtain ⟨known, asked⟩ := Option.filter_eq_some_iff.1 kept
  exact held name resource earlier known asked

/-- As long as calls do not overlap, everything follows the spec. -/
theorem Reachable.throughout {profiler : Profiler α}
    (reachable : Reachable profiler) :
    profiler.Throughout fun resource labels =>
      profiler.spec.asksFor resource = true ∧
        labels = profiler.spec.reported := by
  induction reachable with
  | create key spec =>
      refine ⟨every_create _ key spec, ?_⟩
      intro name entry resource summary named
      cases named
  | update spec _ _ =>
      exact throughout_follow spec fun _ _ _ _ asked => ⟨asked, rfl⟩
  | restore reachable succeeded _ =>
      obtain ⟨-, rfl⟩ := restore_eq_ok_iff.1 succeeded
      refine throughout_publish ?_
      intro name resource estimator found
      obtain ⟨asked, quantiles⟩ :=
        follows_takeOver reachable.follows _ _ name resource estimator found
      refine ⟨asked, ?_⟩
      rw [Estimator.labels, quantiles]
      rfl
  | profile settings resolver repository now store _ induction =>
      rw [(profile_effect settings resolver repository now _ store).1,
        spec_cycled, ← (profile_effect settings resolver repository now _
          store).1]
      exact induction.profile (fun _ asked => ⟨asked, rfl⟩) settings resolver
        repository now store

end

/-!
## The order of steps
-/

namespace Call

/-- Whether a call keeps the entries to itself. -/
def holds : Call α → Bool
  | .begun _ => true
  | .running .. => true
  | _ => false

/-- Whether a call has not begun. -/
def Waits : Call α → Prop
  | .update _ => True
  | .cycle _ => True
  | _ => False

/-- The spec that the entries follow in the next step of a call. -/
def followed? : Call α → Option (Spec α)
  | .following spec => some spec
  | _ => none

end Call

/-- The spec that the entries have followed last in some steps, or the one
from before. -/
def lastFollowed (origin : Spec α) (done : List (Call α)) : Spec α :=
  (done.filterMap Call.followed?).getLast?.getD origin

theorem lastFollowed_append (origin : Spec α) (done : List (Call α))
    (call : Call α) :
    lastFollowed origin (done ++ [call]) =
      call.followed?.getD (lastFollowed origin done) := by
  unfold lastFollowed
  cases followed : call.followed? <;>
    simp [List.filterMap_append, followed]

section

variable [Analytic α] {σ : Type}

/-- A resource of the stored spec, with the labels of that spec or of the one
followed last. -/
def Admitted (stored followed : Spec α) (resource : Resource)
    (labels : Set String) : Prop :=
  stored.asksFor resource = true ∧
    (labels = stored.reported ∨ labels = followed.reported)

/-- Either the update that stored its spec last has not come to its entries
yet, or nothing is shown that is not admitted and any cycle goes by the stored
spec. -/
def Attended (followed : Spec α) (shared : Shared σ α)
    (calls : List (Call α)) : Prop :=
  .following shared.profiler.spec ∈ calls ∨
    shared.profiler.Throughout (Admitted shared.profiler.spec followed) ∧
      ∀ surroundings spec, .running surroundings spec ∈ calls →
        spec = shared.profiler.spec

/-- What holds at every time of a run: at most one call has the entries, and
the stored spec is attended to. -/
structure Orderly (origin : Spec α)
    (state : Interleaving (Shared σ α) (Call α)) (done : List (Call α)) :
    Prop where
  holders : state.calls.countP Call.holds = state.shared.busy.toNat
  attended : Attended (lastFollowed origin done) state.shared state.calls

/-- Calls that have not begun, on a profiler that one call at a time has
used. -/
structure Fresh (start : Interleaving (Shared σ α) (Call α)) : Prop where
  reachable : Reachable start.shared.profiler
  idle : start.shared.busy = false
  waits : ∀ call ∈ start.calls, call.Waits

theorem Fresh.orderly {start : Interleaving (Shared σ α) (Call α)}
    (fresh : Fresh start) : Orderly start.shared.profiler.spec start [] where
  holders := by
    rw [fresh.idle]
    refine List.countP_eq_zero.2 ?_
    intro call member holds
    have waits := fresh.waits call member
    cases call <;> simp [Call.Waits, Call.holds] at waits holds
  attended := by
    refine .inr ⟨fresh.reachable.throughout.mono ?_, ?_⟩
    · rintro resource labels ⟨asked, reported⟩
      exact ⟨asked, .inl reported⟩
    · intro surroundings spec member
      exact (fresh.waits _ member).elim

variable {origin : Spec α} {state : Interleaving (Shared σ α) (Call α)}
  {done : List (Call α)} {position : Nat} {call next : Call α}
  {shared : Shared σ α}

theorem Orderly.busy_of_holds (orderly : Orderly origin state done)
    (member : call ∈ state.calls) (holds : call.holds = true) :
    state.shared.busy = true := by
  have positive := List.countP_pos_iff.2 ⟨call, member, holds⟩
  rw [orderly.holders] at positive
  cases busy : state.shared.busy with
  | true => rfl
  | false => simp [busy] at positive

/-- A step of a cycle, which leaves the stored spec alone. -/
theorem Orderly.attended_of_cycle (orderly : Orderly origin state done)
    (called : state.calls[position]? = some call)
    (unfollowed : call.followed? = none)
    (same : shared.profiler.spec = state.shared.profiler.spec)
    (kept : (∀ surroundings spec, call = .running surroundings spec →
        spec = state.shared.profiler.spec) →
      ∀ followed, state.shared.profiler.Throughout
          (Admitted state.shared.profiler.spec followed) →
        shared.profiler.Throughout
          (Admitted state.shared.profiler.spec followed))
    (found : ∀ surroundings spec, next = .running surroundings spec →
      spec = state.shared.profiler.spec) :
    Attended (lastFollowed origin (done ++ [call])) shared
      (state.calls.set position next) := by
  rw [lastFollowed_append, unfollowed, Attended, same]
  rcases orderly.attended with pending | ⟨throughout, running⟩
  · refine .inl (Interleaving.mem_set_of_ne called pending ?_)
    rintro rfl
    cases unfollowed
  · refine .inr ⟨kept ?_ _ throughout, ?_⟩
    · rintro surroundings spec rfl
      exact running surroundings spec (List.mem_of_getElem? called)
    · intro surroundings spec member
      rcases List.mem_or_eq_of_mem_set member with earlier | new
      · exact running surroundings spec earlier
      · exact found surroundings spec new.symm

variable [CheckpointStore σ α]

/-- The entries are kept from the step that takes them to the one that gives
them back. -/
theorem busy_of_step {before : Shared σ α}
    (held : call.holds = true → before.busy = true)
    (stepped : step before call = some (shared, next)) :
    shared.busy.toNat + call.holds.toNat =
      before.busy.toNat + next.holds.toNat := by
  cases call with
  | update spec =>
      cases stepped
      rfl
  | following spec =>
      simp only [step] at stepped
      split at stepped
      · cases stepped
      · cases stepped
        rfl
  | cycle surroundings =>
      simp only [step] at stepped
      split at stepped
      · cases stepped
        rfl
      next idle =>
        cases stepped
        simp [idle, Call.holds]
  | begun surroundings =>
      cases stepped
      rfl
  | running surroundings spec =>
      cases stepped
      rw [held rfl]
      rfl
  | returned => cases stepped

theorem Orderly.holders_step (orderly : Orderly origin state done)
    (called : state.calls[position]? = some call)
    (stepped : step state.shared call = some (shared, next)) :
    (state.calls.set position next).countP Call.holds =
      shared.busy.toNat := by
  have counted := Interleaving.countP_set_add called next Call.holds
  have kept := busy_of_step
    (orderly.busy_of_holds (List.mem_of_getElem? called)) stepped
  rw [orderly.holders] at counted
  omega

/-- A cycle that goes by the stored spec keeps what is admitted. -/
theorem Throughout.finishCycle {stored followed : Spec α}
    {before : Shared σ α}
    (throughout : before.profiler.Throughout (Admitted stored followed))
    (surroundings : Surroundings α) :
    (before.finishCycle surroundings stored).profiler.Throughout
      (Admitted stored followed) := by
  have started : (before.profiler.storeSpec stored).Throughout
      (Admitted stored followed) := ⟨throughout.held, throughout.published⟩
  obtain ⟨held, published⟩ := started.profile
    (fun _ asked => ⟨asked, .inl rfl⟩) surroundings.settings
    surroundings.resolver surroundings.repository surroundings.now
    before.store
  exact ⟨held, published⟩

theorem Orderly.attended_step (orderly : Orderly origin state done)
    (called : state.calls[position]? = some call)
    (stepped : step state.shared call = some (shared, next)) :
    Attended (lastFollowed origin (done ++ [call])) shared
      (state.calls.set position next) := by
  cases call with
  | update spec =>
      cases stepped
      exact .inl (Interleaving.mem_set_self called _)
  | following spec =>
      simp only [step] at stepped
      split at stepped
      · cases stepped
      next idle =>
      cases stepped
      rw [lastFollowed_append]
      have noCycle (surroundings : Surroundings α) (found : Spec α) :
          .running surroundings found ∉
            state.calls.set position .returned := by
        intro member
        rcases List.mem_or_eq_of_mem_set member with earlier | new
        · exact idle (orderly.busy_of_holds earlier rfl)
        · cases new
      by_cases same : spec = state.shared.profiler.spec
      · subst same
        refine .inr ⟨throughout_follow _ ?_, ?_⟩
        · exact fun _ _ _ _ asked => ⟨asked, .inl rfl⟩
        · exact fun _ _ member => absurd member (noCycle _ _)
      · rcases orderly.attended with pending | ⟨throughout, -⟩
        · refine .inl (Interleaving.mem_set_of_ne called pending ?_)
          intro equal
          exact same (Call.following.inj equal).symm
        · refine .inr ⟨throughout_follow _ ?_, ?_⟩
          · intro name resource estimator found asked
            exact ⟨(throughout.held _ _ _ found).1, .inr rfl⟩
          · exact fun _ _ member => absurd member (noCycle _ _)
  | cycle surroundings =>
      simp only [step] at stepped
      split at stepped
      all_goals
        cases stepped
        refine orderly.attended_of_cycle called rfl rfl
          (fun _ _ throughout => throughout) ?_
        intro _ _ new
        cases new
  | begun surroundings =>
      cases stepped
      refine orderly.attended_of_cycle called rfl rfl
        (fun _ _ throughout => throughout) ?_
      intro _ spec new
      cases new
      rfl
  | running surroundings spec =>
      cases stepped
      refine orderly.attended_of_cycle called rfl rfl ?_ ?_
      · intro current followed throughout
        obtain rfl := current surroundings spec rfl
        exact throughout.finishCycle surroundings
      · intro _ _ new
        cases new
  | returned => cases stepped

/-- If no call can take a step, none waits for another one. -/
theorem Orderly.returned (orderly : Orderly origin state done)
    (settled : state.Settled step) :
    state.shared.busy = false ∧ ∀ call ∈ state.calls, call = .returned := by
  have idle : state.shared.busy = false := by
    cases busy : state.shared.busy with
    | false => rfl
    | true =>
        have counted : 0 < state.calls.countP Call.holds := by
          rw [orderly.holders, busy]
          exact Nat.one_pos
        obtain ⟨holder, member, holds⟩ := List.countP_pos_iff.1 counted
        have stuck := settled holder member
        cases holder <;> simp [Call.holds, step] at holds stuck
  refine ⟨idle, ?_⟩
  intro call member
  have stuck := settled call member
  cases call with
  | returned => rfl
  | _ => simp [step, idle] at stuck

theorem orderly_run {start : Interleaving (Shared σ α) (Call α)}
    (fresh : Fresh start) (schedule : List Nat) :
    Orderly start.shared.profiler.spec (start.run step schedule)
      (start.taken step schedule) := by
  refine Interleaving.run_invariant _ ?_ fresh.orderly schedule
  intro state position done call shared next orderly called stepped
  exact ⟨orderly.holders_step called stepped,
    orderly.attended_step called stepped⟩

/-- Whatever the order of their steps, updates and cycles come to an end, and
then only resources that the stored spec asks for are held and published.
Their labels are those of the stored spec or of the one that the entries
followed last; if these are the same, all labels that the stored spec lists
are there exactly if its first model has all of them. -/
theorem shown_after_overlap {start : Interleaving (Shared σ α) (Call α)}
    (fresh : Fresh start) {schedule : List Nat}
    (settled : (start.run step schedule).Settled step) :
    let last := start.run step schedule
    let profiler := last.shared.profiler
    let followed := lastFollowed start.shared.profiler.spec
      (start.taken step schedule)
    last.shared.busy = false ∧ (∀ call ∈ last.calls, call = .returned) ∧
      profiler.Throughout (fun resource labels =>
        profiler.spec.asksFor resource = true ∧
          (labels = profiler.spec.reported ∨
            labels = followed.reported)) ∧
      (followed.reported = profiler.spec.reported →
        (profiler.Conforms ↔ profiler.Throughout (fun _ _ => False) ∨
          profiler.spec.reported = profiler.spec.listed)) := by
  intro last profiler followed
  have orderly := orderly_run fresh schedule
  obtain ⟨idle, returned⟩ := orderly.returned settled
  have throughout : profiler.Throughout
      (Admitted profiler.spec followed) := by
    rcases orderly.attended with pending | ⟨throughout, -⟩
    · cases returned _ pending
    · exact throughout
  refine ⟨idle, returned, throughout, fun same => ⟨?_, ?_⟩⟩
  · intro conforms
    by_cases all : profiler.spec.reported = profiler.spec.listed
    · exact .inr all
    · refine .inl ((throughout.and conforms).mono ?_)
      rintro resource labels ⟨⟨-, either⟩, -, listed⟩
      rw [same, or_self] at either
      exact all (either.symm.trans listed)
  · rintro (nothing | all)
    · exact nothing.mono fun _ _ => False.elim
    · refine throughout.mono ?_
      rintro resource labels ⟨asked, either⟩
      rw [same, or_self] at either
      exact ⟨asked, either.trans all⟩

end

/-!
## One container with processor time
-/

namespace Overlap

/-- Processor time with one model for each of some lists of labels. -/
def labelled (models : List (List String)) : Spec Float :=
  ⟨none, [⟨.metricsApi, [.cpu]⟩],
    models.map fun labels => .distribution ⟨labels, none⟩⟩

def surroundings : Surroundings Float :=
  ⟨settings, resolver, repository, ⟨200, 0⟩⟩

/-- Calls on a profiler that has run one cycle. -/
def overlap (calls : List (Call Float)) :
    Interleaving (Shared (MemoryStore Float) Float) (Call Float) :=
  let first := first [.metricsApi]
  ⟨⟨first.profiler, first.store, false⟩, calls⟩

theorem fresh_overlap {calls : List (Call Float)}
    (waits : ∀ call ∈ calls, call.Waits) : Fresh (overlap calls) where
  reachable := .profile _ _ _ _ _ (.create _ _)
  idle := rfl
  waits := waits

end Overlap

/-- The update that stored its spec first is followed last, and its label
stays; of two models the second one counts for nothing. -/
theorem late_follower_and_second_model :
    let median := Overlap.labelled [["p50"]]
    let tail := Overlap.labelled [["p99"]]
    let both := Overlap.labelled [["p50"], ["p99"]]
    let crossed := Overlap.overlap [.update median, .update tail]
    let single := Overlap.overlap [.update both]
    (∀ spec ∈ [median, tail, both], spec.validate.isOk = true ∧
      crossed.shared.profiler.key.agrees spec = true) ∧
    (Fresh crossed ∧
      (crossed.run step [0, 1, 1, 0]).Settled step ∧
      ¬ (crossed.run step [0, 1, 1, 0]).shared.profiler.Conforms) ∧
    (Fresh single ∧
      (single.run step [0, 0]).Settled step ∧
      ¬ (single.run step [0, 0]).shared.profiler.Conforms) := by
  intro median tail both crossed single
  refine ⟨by decide +kernel, ⟨Overlap.fresh_overlap ?_, ?_, ?_⟩,
    Overlap.fresh_overlap ?_, ?_, ?_⟩
  · simp [Call.Waits]
  · unfold Interleaving.Settled
    decide +kernel
  · exact not_conforms "app" .cpu ["p50"] (by decide +kernel)
      (by decide +kernel)
  · simp [Call.Waits]
  · unfold Interleaving.Settled
    decide +kernel
  · exact not_conforms "app" .cpu ["p50"] (by decide +kernel)
      (by decide +kernel)

/-- Two updates come in while a cycle runs, and the entries follow the one
that has stored its spec last. -/
theorem updates_during_cycle_conform :
    let start := Overlap.overlap [.cycle Overlap.surroundings,
      .update (Overlap.labelled [["p50"]]),
      .update (Overlap.labelled [["p99"]])]
    let schedule := [0, 1, 0, 1, 2, 0, 1, 2]
    Fresh start ∧ (start.run step schedule).Settled step ∧
      (start.run step schedule).shared.profiler.Conforms := by
  intro start schedule
  have fresh : Fresh start := Overlap.fresh_overlap (by simp [Call.Waits])
  have settled : (start.run step schedule).Settled step := by
    unfold Interleaving.Settled
    decide +kernel
  obtain ⟨-, -, -, conforms⟩ := shown_after_overlap fresh settled
  have followed : (lastFollowed start.shared.profiler.spec
      (start.taken step schedule)).quantiles.map Quantile.label =
        (start.run step schedule).shared.profiler.spec.quantiles.map
          Quantile.label := by
    decide +kernel
  have valid :
      (start.run step schedule).shared.profiler.spec.validate = .ok () :=
    Spec.valid_of_isOk (by decide +kernel)
  refine ⟨fresh, settled, (conforms ?_).2 (.inr ?_)⟩
  · rw [Spec.reported, followed]
    rfl
  · refine (Spec.reported_eq_listed_iff valid).2 ?_
    decide +kernel

end Profiler

end UsageForecast
