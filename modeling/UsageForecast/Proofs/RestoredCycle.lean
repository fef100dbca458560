import UsageForecast.Proofs.Following
import UsageForecast.Proofs.RepeatedCycles

/-!
# The first cycle after a restore

A checkpoint carries the statistics of all estimators, but not the times of
the samples that were folded last.  A restored profiler has the statistics of
the profiler that was saved, and yet folds all that the caches still show:
its first cycle is idle only if nothing is offered at all.
-/

namespace UsageForecast.Profiler

variable {α : Type} [Analytic α]

/-- A cycle offers no sample to any entry. -/
def OffersNothing (resolver : Resolver) (repository : Repository α)
    (pods : List Pod) (profiler : Profiler α) : Prop :=
  ∀ name offered,
    (name, offered) ∈ profiler.offersFor resolver repository pods →
      offered = []

section

variable {settings : Settings α} {resolver : Resolver}
  {repository : Repository α} {now : Instant} {pods : List Pod}
  {profiler : Profiler α}

theorem offersNothing_seeded (hashes : Hashes) :
    profiler.OffersNothing resolver (repository.seeded hashes) pods ↔
      profiler.OffersNothing resolver repository pods := by
  refine forall_offersFor_seeded ?_ hashes
  intro name left right same nothing
  rw [nothing] at same
  exact List.nil_perm.1 same.perm

/-- Without a record of past samples only an empty offer is settled. -/
theorem settled_iff_offersNothing
    (unrecorded : ∀ name observed,
      profiler.lastFolded? name observed = none) :
    profiler.Settled resolver repository pods ↔
      profiler.OffersNothing resolver repository pods := by
  constructor
  · intro settled name offered served
    apply List.eq_nil_iff_forall_not_mem.2
    intro offer member
    have last := settled name offered served offer member
    rw [unrecorded] at last
    cases last
  · intro nothing name offered served offer member
    rw [nothing name offered served] at member
    cases member

/-- A new profiler for the key and the spec of another one, with the
checkpoint of that one taken over. -/
abbrev reopened (profiler : Profiler α) (saved opened : Instant) :
    Profiler α :=
  (create profiler.key profiler.spec).takeOver opened
    (profiler.checkpoint saved)

/-- An estimator as it is read back from a checkpoint. -/
def reloaded (spec : Spec α) (resource : Resource)
    (estimator : Estimator α) : Estimator α :=
  (Estimator.forResource resource spec.quantiles).load estimator.state

theorem estimator?_reopened (follows : profiler.Follows)
    (saved opened : Instant) (name : String) (resource : Resource) :
    (profiler.reopened saved opened).estimator? name resource =
      (profiler.estimator? name resource).map
        (reloaded profiler.spec resource) := by
  have stored : ((profiler.checkpoint saved).entries.find? name).bind
      (fun entry => entry.find? resource) =
        (profiler.estimator? name resource).map Estimator.state := by
    rw [checkpoint, SortedMap.find?_mapValues, estimator?]
    cases profiler.entries.find? name with
    | none => rfl
    | some entry => exact SortedMap.find?_mapValues _ _ _
  rw [reopened, estimator?_takeOver, stored, estimator?_create,
    Option.or_none]
  cases known : profiler.estimator? name resource with
  | none => rfl
  | some estimator =>
      have asked : (create profiler.key profiler.spec).spec.asksFor
          resource = true := (follows name resource estimator known).1
      rw [Option.map_some, Option.filter_some, if_pos asked]
      rfl

theorem figures?_reopened (follows : profiler.Follows)
    (saved opened : Instant) (name : String) (resource : Resource) :
    (profiler.reopened saved opened).figures? name resource =
      profiler.figures? name resource := by
  rw [figures?, estimator?_reopened follows, Option.map_map]
  rfl

theorem reportable_reopened (follows : profiler.Follows)
    (reportable : profiler.Reportable) (saved opened : Instant) :
    (profiler.reopened saved opened).Reportable := by
  rw [reportable_iff_every] at reportable ⊢
  intro name resource estimator found
  rw [estimator?_reopened follows] at found
  obtain ⟨earlier, known, rfl⟩ := Option.map_eq_some_iff.1 found
  have quantiles := (follows name resource earlier known).2
  rcases reportable name resource earlier known with unlabelled | bounded
  · exact .inl (quantiles.symm.trans unlabelled)
  · exact .inr bounded

end

variable {σ : Type} [CheckpointStore σ α] {settings : Settings α}
  {resolver : Resolver} {repository : Repository α} {now : Instant}
  {profiler : Profiler α} {store : σ}

variable (settings repository now store) in
private theorem reopened_cycle {pods : List Pod}
    (follows : profiler.Follows) (reportable : profiler.Reportable)
    (resolved : resolver.pods profiler.key.target = .ok pods)
    (saved opened : Instant) :
    ∃ restored,
      (create profiler.key profiler.spec).restore opened
          (profiler.checkpoint saved) = .ok restored ∧
        (∀ name resource, restored.figures? name resource =
          profiler.figures? name resource) ∧
        ((restored.profile settings resolver repository now store).Idle ↔
          profiler.OffersNothing resolver repository pods) := by
  have restorable := reportable_reopened follows reportable saved opened
  refine ⟨(profiler.reopened saved opened).publish,
    restore_eq_ok_iff.2 ⟨restorable, rfl⟩,
    figures?_reopened follows saved opened, ?_⟩
  have settled : (profiler.reopened saved opened).publish.Settled resolver
      repository pods ↔ profiler.OffersNothing resolver repository pods :=
    settled_iff_offersNothing fun name observed =>
      lastFolded?_takeOver _ opened _ name observed
  have found : resolver.pods
      (profiler.reopened saved opened).publish.key.target = .ok pods :=
    resolved
  have reported : (profiler.reopened saved opened).publish.Reportable :=
    reportable_publish.2 restorable
  constructor
  · intro idle
    exact settled.1 (settled_of_idle found idle)
  · intro nothing
    exact (profile_of_settled settings now store found
      (settled.2 nothing) reported).1

/-- Idle cycles of profilers with the same statistics leave the same
statistics behind, for every entry that both keep. -/
private theorem figures_eq_of_idle {left right : Profiler α}
    {other : Repository α}
    (same : ∀ name resource,
      left.figures? name resource = right.figures? name resource)
    (leftIdle :
      (left.profile settings resolver repository now store).Idle)
    (rightIdle :
      (right.profile settings resolver other now store).Idle)
    (name : String) (resource : Resource)
    {leftFigures rightFigures : Estimator.Figures α}
    (leftFound : (left.profile settings resolver repository now
      store).profiler.figures? name resource = some leftFigures)
    (rightFound : (right.profile settings resolver other now
      store).profiler.figures? name resource = some rightFigures) :
    leftFigures = rightFigures := by
  rcases figures?_of_idle leftIdle name resource with kept | ⟨dropped, -⟩
  · rcases figures?_of_idle rightIdle name resource with held | ⟨gone, -⟩
    · rw [kept, same, ← held, rightFound] at leftFound
      exact (Option.some.inj leftFound).symm
    · rw [gone] at rightFound
      cases rightFound
  · rw [dropped] at leftFound
    cases leftFound

/-- A profiler that is built anew from the checkpoint of a cycle folds
nothing in its first cycle exactly if nothing is offered, whereas the profiler
that was not stopped folds nothing in any case.  If the restored profiler
folds nothing, both have the same statistics.  The order of the answers makes
no difference to either. -/
theorem restored_cycle_idle_iff
    (reachable : Reachable profiler) (separate : profiler.spec.Separate)
    {samples : Nat}
    (completed : (profiler.profile settings resolver repository now
      store).samples? = some samples) (opened later : Instant)
    (hashes others : Hashes) :
    let first := profiler.profile settings resolver repository now store
    let saved := first.profiler.checkpoint now
    let continued := first.profiler.profile settings resolver
      (repository.seeded hashes) later first.store
    first.store = (CheckpointStore.save store saved).1 ∧
      ∃ pods restored, resolver.pods profiler.key.target = .ok pods ∧
        (create profiler.key profiler.spec).restore opened saved =
          .ok restored ∧
        (∀ name resource, restored.figures? name resource =
          first.profiler.figures? name resource) ∧
        continued.Idle ∧
        let again := restored.profile settings resolver
          (repository.seeded others) later first.store
        (again.Idle ↔
          profiler.OffersNothing resolver repository pods) ∧
        (again.Idle → ∀ name resource restoredFigures continuedFigures,
          again.profiler.figures? name resource = some restoredFigures →
          continued.profiler.figures? name resource =
              some continuedFigures →
            restoredFigures = continuedFigures) := by
  intro first saved continued
  obtain ⟨pods, resolved, reportable, published, stored, -⟩ :=
    profile_of_samples completed
  have reported : first.profiler.Reportable := by
    rw [published]
    exact reportable_publish.2 reportable
  have follows : first.profiler.Follows :=
    (reachable.profile settings resolver repository now store).follows
  have same : first.profiler.key = profiler.key ∧
      first.profiler.spec = profiler.spec := by
    rw [published]
    exact ⟨rfl, rfl⟩
  have again : resolver.pods first.profiler.key.target = .ok pods := by
    rw [same.1]
    exact resolved
  have nothing : first.profiler.OffersNothing resolver repository pods ↔
      profiler.OffersNothing resolver repository pods := by
    rw [published]
    exact Iff.rfl
  have settled : first.profiler.Settled resolver repository pods := by
    rw [published]
    exact settled_publish.2
      ((settled_advance_iff settings now).2 (coherent_of_separate separate))
  have idle : continued.Idle :=
    (profile_of_settled settings later first.store again
      ((settled_seeded hashes).2 settled) reported).1
  obtain ⟨restored, succeeded, figures, idle_iff⟩ :=
    reopened_cycle settings (repository.seeded others) later first.store
      follows reported again now opened
  refine ⟨?_, pods, restored, resolved, ?_, figures, idle,
    idle_iff.trans ((offersNothing_seeded others).trans nothing), ?_⟩
  · have written : saved = (profiler.advance settings resolver repository
        now pods).checkpoint now := by
      change first.profiler.checkpoint now = _
      rw [published]
      rfl
    rw [stored, written]
  · rw [← same.1, ← same.2]
    exact succeeded
  · intro restoredIdle name resource left right leftFound rightFound
    exact figures_eq_of_idle figures restoredIdle idle name resource
      leftFound rightFound

/-- The first cycle of a profiler that is built anew from the checkpoint of
the first cycle with one source. -/
def Overlap.restoredCycle : Option (Cycle (MemoryStore Float) Float) :=
  let first := Overlap.first [.metricsApi]
  let restored := (create first.profiler.key first.profiler.spec).restore
    ⟨150, 0⟩ (first.profiler.checkpoint ⟨100, 0⟩)
  restored.toOption.map fun restored =>
    restored.profile Overlap.settings Overlap.resolver Overlap.repository
      ⟨200, 0⟩ first.store

/-- The sample that the checkpoint counts is folded again after a restore. -/
theorem restored_profiler_folds_again :
    let first := Overlap.first [.metricsApi]
    let continued := first.rerun Overlap.settings Overlap.resolver
      Overlap.repository [(⟨200, 0⟩, .equal)]
    (Overlap.spec [.metricsApi]).validate.isOk = true ∧
      (Overlap.spec [.metricsApi]).Separate ∧
      first.samples? = some 1 ∧ first.unsaved = false ∧
      continued.Idle ∧
      (continued.profiler.figures? "app" .cpu).map (·.count) = some 1 ∧
      Overlap.restoredCycle.map (·.samples?) = some (some 1) ∧
      Overlap.restoredCycle.map (fun cycle =>
        (cycle.profiler.figures? "app" .cpu).map (·.count)) =
          some (some 2) := by
  unfold Cycle.Idle Spec.Separate
  decide +kernel

/-- A profiler of one source can be restored after its first cycle, and would
have stayed idle without that. -/
theorem single_source_restorable :
    let first := Overlap.first [.metricsApi]
    (first.rerun Overlap.settings Overlap.resolver Overlap.repository
        [(⟨200, 0⟩, .equal)]).Idle ∧
      ∃ restored,
        (create (Overlap.profiler [.metricsApi]).key
          (Overlap.profiler [.metricsApi]).spec).restore ⟨150, 0⟩
            (first.profiler.checkpoint ⟨100, 0⟩) = .ok restored := by
  have separate : (Overlap.profiler [.metricsApi]).spec.Separate := by
    unfold Spec.Separate
    decide
  have completed : (Overlap.first [.metricsApi]).samples? = some 1 := by
    decide +kernel
  obtain ⟨-, -, restored, -, succeeded, -, idle, -⟩ :=
    restored_cycle_idle_iff (.create _ _) separate completed ⟨150, 0⟩
      ⟨200, 0⟩ .equal .equal
  exact ⟨idle, restored, succeeded⟩

end UsageForecast.Profiler
