import UsageForecast.Proofs.AnswerOrder
import UsageForecast.Scalar.Binary

/-!
# Cycles between two refreshes

The caches do not change between two refreshes, so that a cycle offers what
the cycle before it has offered, though maybe in another order.  The repeated
cycle folds nothing, and leaves all statistics as they are, exactly if no slot
of an entry was offered at two times.  This holds for every spec whose sources
serve different resources.  Sources that share a resource take turns in
overwriting the time of the last sample, and each of their samples is folded
again in each cycle.
-/

namespace UsageForecast

/-- The statistics of an estimator that decay does not touch. -/
structure Estimator.Figures (α : Type) where
  count : UInt64
  mean : α
  varianceSum : α
  least : α
  greatest : α
  firstSampleStart : Option Instant
  lastSampleStart : Option Instant

def Estimator.figures {α : Type} (estimator : Estimator α) : Figures α :=
  ⟨estimator.count, estimator.mean, estimator.varianceSum, estimator.least,
    estimator.greatest, estimator.firstSampleStart,
    estimator.lastSampleStart⟩

namespace Profiler

variable {σ α : Type}

/-- The statistics that an entry holds for a resource. -/
def figures? (profiler : Profiler α) (name : String)
    (resource : Resource) : Option (Estimator.Figures α) :=
  (profiler.estimator? name resource).map Estimator.figures

variable [Analytic α]

/-- A settled cycle does not change what can be reported. -/
theorem reportable_advance_of_settled
    (settings : Settings α) {resolver : Resolver}
    {repository : Repository α} (now : Instant) {pods : List Pod}
    {profiler : Profiler α}
    (settled : profiler.Settled resolver repository pods)
    (reportable : profiler.Reportable) :
    (profiler.advance settings resolver repository now pods).Reportable := by
  rw [reportable_iff_every] at reportable ⊢
  intro name resource estimator found
  rcases estimator?_advance_of_settled settings now settled name resource
    with kept | ⟨dropped, -⟩
  · rw [kept] at found
    obtain ⟨earlier, known, rfl⟩ := Option.map_eq_some_iff.1 found
    exact reportable name resource earlier known
  · rw [dropped] at found
    cases found

section

variable [CheckpointStore σ α]

/-- Further cycles at given times, without a refresh in between; the hashes
are those of the answers that a cycle gets. -/
def Cycle.rerun (settings : Settings α) (resolver : Resolver)
    (repository : Repository α) (cycle : Cycle σ α)
    (turns : List (Instant × Hashes)) : Cycle σ α :=
  turns.foldl
    (fun cycle (time, hashes) => cycle.profiler.profile settings resolver
      (repository.seeded hashes) time cycle.store)
    cycle

/-- Another cycle at some time folds nothing and keeps the statistics of all
entries that are not overdue, in whatever order its answers come. -/
def Cycle.Quiet (settings : Settings α) (resolver : Resolver)
    (repository : Repository α) (cycle : Cycle σ α) (now : Instant) : Prop :=
  ∀ hashes,
    let next := cycle.profiler.profile settings resolver
      (repository.seeded hashes) now cycle.store
    next.Idle ∧ ∀ name resource,
      next.profiler.figures? name resource =
          cycle.profiler.figures? name resource ∨
        next.profiler.figures? name resource = none ∧
          cycle.profiler.Overdue settings now name

variable {settings : Settings α} {resolver : Resolver}
  {repository : Repository α} {now : Instant} {pods : List Pod}
  {profiler : Profiler α} {store : σ}

variable (settings now store) in
/-- A cycle of a settled profiler that can be reported is completed. -/
theorem profile_of_settled
    (resolved : resolver.pods profiler.key.target = .ok pods)
    (settled : profiler.Settled resolver repository pods)
    (reportable : profiler.Reportable) :
    let next := profiler.profile settings resolver repository now store
    next.Idle ∧ next.profiler =
      (profiler.advance settings resolver repository now pods).publish := by
  obtain ⟨samples, published⟩ := samples_of_reportable store resolved
    (reportable_advance_of_settled settings now settled reportable)
  refine ⟨?_, published⟩
  rw [Cycle.Idle, samples, served_count_eq_zero_iff.2 settled]

theorem settled_of_idle
    (resolved : resolver.pods profiler.key.target = .ok pods)
    (idle :
      (profiler.profile settings resolver repository now store).Idle) :
    profiler.Settled resolver repository pods := by
  obtain ⟨other, found, -, -, -, none⟩ := profile_of_samples idle
  rw [resolved] at found
  cases found
  exact served_count_eq_zero_iff.1 none

/-- An idle cycle keeps the statistics of all entries that are not
overdue. -/
theorem figures?_of_idle
    (idle :
      (profiler.profile settings resolver repository now store).Idle)
    (name : String) (resource : Resource) :
    let next := profiler.profile settings resolver repository now store
    next.profiler.figures? name resource =
        profiler.figures? name resource ∨
      next.profiler.figures? name resource = none ∧
        profiler.Overdue settings now name := by
  intro next
  obtain ⟨pods, -, -, published, -, none⟩ := profile_of_samples idle
  have settled := served_count_eq_zero_iff.1 none
  have figures : next.profiler.figures? name resource =
      ((profiler.advance settings resolver repository now
        pods).estimator? name resource).map Estimator.figures := by
    rw [figures?, published]
    rfl
  rw [figures]
  rcases estimator?_advance_of_settled settings now settled name resource
    with kept | ⟨dropped, overdue⟩
  · refine .inl ?_
    rw [kept, Option.map_map]
    rfl
  · refine .inr ⟨?_, overdue⟩
    rw [dropped]
    rfl

/-- The state of a profiler between two refreshes that has seen all that the
caches show. -/
private structure UpToDate (resolver : Resolver) (repository : Repository α)
    (pods : List Pod) (profiler : Profiler α) : Prop where
  resolved : resolver.pods profiler.key.target = .ok pods
  settled : profiler.Settled resolver repository pods
  reportable : profiler.Reportable

variable (settings now) in
private theorem UpToDate.quiet {cycle : Cycle σ α}
    (current : UpToDate resolver repository pods cycle.profiler) :
    cycle.Quiet settings resolver repository now := by
  intro hashes
  obtain ⟨idle, -⟩ := profile_of_settled settings now cycle.store
    current.resolved ((settled_seeded hashes).2 current.settled)
    current.reportable
  exact ⟨idle, figures?_of_idle idle⟩

variable (settings now) in
private theorem UpToDate.step {cycle : Cycle σ α}
    (current : UpToDate resolver repository pods cycle.profiler)
    (hashes : Hashes) :
    UpToDate resolver repository pods (cycle.profiler.profile settings
      resolver (repository.seeded hashes) now cycle.store).profiler := by
  have before := (settled_seeded hashes).2 current.settled
  obtain ⟨-, published⟩ := profile_of_settled settings now
    cycle.store current.resolved before current.reportable
  rw [published]
  have settled := (settled_advance_iff settings now).2 before.coherent
  have reportable := reportable_advance_of_settled settings now before
    current.reportable
  exact ⟨current.resolved,
    settled_publish.2 ((settled_seeded hashes).1 settled),
    reportable_publish.2 reportable⟩

variable (settings) in
private theorem UpToDate.rerun {cycle : Cycle σ α}
    (current : UpToDate resolver repository pods cycle.profiler)
    (turns : List (Instant × Hashes)) :
    UpToDate resolver repository pods
        (cycle.rerun settings resolver repository turns).profiler ∧
      ∀ name resource figures,
        (cycle.rerun settings resolver repository turns).profiler.figures?
            name resource = some figures →
          cycle.profiler.figures? name resource = some figures := by
  induction turns generalizing cycle with
  | nil => exact ⟨current, fun _ _ _ held => held⟩
  | cons turn turns induction =>
      obtain ⟨time, hashes⟩ := turn
      obtain ⟨last, held⟩ := induction (current.step settings time hashes)
      refine ⟨last, fun name resource figures found => ?_⟩
      have before := held name resource figures found
      rcases (current.quiet settings time hashes).2 name resource with
        kept | ⟨dropped, -⟩
      · rwa [kept] at before
      · rw [dropped] at before
        cases before

/-- Whether cycles between two refreshes fold what the first of them has
folded depends on the offers alone, and not on their order: a second cycle is
idle exactly if the offers are coherent, and then so is every later one, and no
statistics change except that overdue entries are dropped. -/
theorem repeated_cycles_idle_iff
    {samples : Nat}
    (completed : (profiler.profile settings resolver repository now
      store).samples? = some samples) :
    let first := profiler.profile settings resolver repository now store
    ∃ pods, resolver.pods profiler.key.target = .ok pods ∧
      (∀ later hashes, (first.profiler.profile settings resolver
          (repository.seeded hashes) later first.store).Idle ↔
        profiler.Coherent resolver repository pods) ∧
      (profiler.Coherent resolver repository pods → ∀ turns,
        let last := first.rerun settings resolver repository turns
        (∀ later, last.Quiet settings resolver repository later) ∧
          ∀ name resource figures,
            last.profiler.figures? name resource = some figures →
              first.profiler.figures? name resource = some figures) := by
  intro first
  obtain ⟨pods, resolved, reportable, published, -, -⟩ :=
    profile_of_samples completed
  have again : resolver.pods first.profiler.key.target = .ok pods := by
    rw [published]
    exact resolved
  have settled : first.profiler.Settled resolver repository pods ↔
      profiler.Coherent resolver repository pods := by
    rw [published]
    exact settled_publish.trans (settled_advance_iff settings now)
  have reported : first.profiler.Reportable := by
    rw [published]
    exact reportable_publish.2 reportable
  refine ⟨pods, resolved, fun later hashes => ⟨?_, ?_⟩, ?_⟩
  · intro idle
    exact settled.1 ((settled_seeded hashes).1 (settled_of_idle again idle))
  · intro coherent
    exact (profile_of_settled settings later first.store again
      ((settled_seeded hashes).2 (settled.2 coherent)) reported).1
  · intro coherent turns
    have current : UpToDate resolver repository pods first.profiler :=
      ⟨again, settled.2 coherent, reported⟩
    obtain ⟨last, held⟩ := current.rerun settings turns
    exact ⟨fun later => last.quiet settings later, held⟩

end

/-!
## One pod in two sources

The metrics API and another back end both serve processor time and show the
pod at times of their own.
-/

namespace Overlap

def pod : Pod := ⟨⟨"default", "web-1"⟩, ∅, ["app"], some "Running"⟩

def resolver : Resolver := ⟨[], Cache.empty.replace ⟨0, 0⟩ ⟨∅, [pod]⟩⟩

/-- One core, used by the pod at a time. -/
def snapshot (seconds : Int) : UsageSnapshot Float :=
  (∅ : UsageSnapshot Float).insert pod.id
    ((PodUsage.empty ⟨seconds, 0⟩).insert "app" .cpu (.value 1))

def repository : Repository Float :=
  { caches := SortedMap.ofList [
      (.metricsApi, Cache.empty.replace ⟨90, 0⟩ (snapshot 0)),
      (.prometheus "vms", Cache.empty.replace ⟨90, 0⟩ (snapshot 60))] }

/-- Processor time from each of some sources. -/
def spec (sources : List Source) : Spec Float :=
  ⟨none, sources.map fun source => ⟨source, [.cpu]⟩,
    [.distribution DistributionModel.standard]⟩

def profiler (sources : List Source) : Profiler Float :=
  .create (.ofSpec (.pods "default" ⟨∅, []⟩) .container (spec sources))
    (spec sources)

def settings : Settings Float := ⟨600, 288⟩

def first (sources : List Source) : Cycle (MemoryStore Float) Float :=
  (profiler sources).profile settings resolver repository ⟨100, 0⟩ ∅

end Overlap

/-- Two sources that serve one resource let both cycles fold both samples,
though nothing was refreshed in between. -/
theorem shared_resource_folded_again :
    let sources := [.metricsApi, .prometheus "vms"]
    let first := Overlap.first sources
    let second := first.rerun Overlap.settings Overlap.resolver
      Overlap.repository [(⟨200, 0⟩, .equal)]
    (Overlap.spec sources).validate.isOk = true ∧
      first.profiler.key.agrees first.profiler.spec = true ∧
      first.samples? = some 2 ∧ ¬ second.Idle ∧
      (first.profiler.figures? "app" .cpu).map (·.count) = some 2 ∧
      (second.profiler.figures? "app" .cpu).map (·.count) = some 4 := by
  unfold Cycle.Idle
  decide +kernel

/-- With one source only, further cycles stay quiet. -/
theorem single_source_quiet :
    let first := Overlap.first [.metricsApi]
    first.samples? = some 1 ∧
      (first.rerun Overlap.settings Overlap.resolver Overlap.repository
        [(⟨200, 0⟩, .equal), (⟨300, 0⟩, .equal)]).Quiet Overlap.settings
          Overlap.resolver Overlap.repository ⟨400, 0⟩ := by
  intro first
  have completed : first.samples? = some 1 := by decide +kernel
  obtain ⟨pods, -, -, quiet⟩ := repeated_cycles_idle_iff completed
  have separate : (Overlap.spec [.metricsApi]).Separate := by
    unfold Spec.Separate
    decide
  exact ⟨completed,
    (quiet (coherent_of_separate separate)
      [(⟨200, 0⟩, .equal), (⟨300, 0⟩, .equal)]).1 _⟩

end Profiler

end UsageForecast
