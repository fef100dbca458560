import UsageForecast.Proofs.CycleEffect

/-!
# Estimators follow the spec

Whatever happens to a profiler, its estimators are for resources that its
spec asks for, and report the quantiles of its spec.  Restoring a checkpoint
does not depend on the quantiles that were saved with it.
-/

namespace UsageForecast

namespace Profiler

variable {α : Type}

theorem estimator?_create (key : ProfileKey) (spec : Spec α)
    (name : String) (resource : Resource) :
    (create key spec).estimator? name resource = none := rfl

theorem every_create (property : Resource → Estimator α → Prop)
    (key : ProfileKey) (spec : Spec α) :
    (create key spec).Every property := by
  intro name resource estimator found
  cases found

section

variable [Scalar α]

/-- Every estimator is for a resource that the spec asks for and reports the
quantiles of the spec. -/
def Follows (profiler : Profiler α) : Prop :=
  profiler.Every fun resource estimator =>
    profiler.spec.asksFor resource = true ∧
      estimator.quantiles = profiler.spec.quantiles

theorem Entry.find?_loadAll
    (entry : Entry α) (quantiles : List (Quantile α))
    (keep : Resource → Bool) (saved : Checkpoint.Entry α)
    (resource : Resource) :
    (entry.loadAll quantiles keep saved).estimators.find? resource =
      (((saved.find? resource).filter fun _ => keep resource).map
        (Estimator.forResource resource quantiles).load).or
          (entry.estimators.find? resource) := by
  have lookup := SortedMap.find?_insertAll_entries entry.estimators
    ((saved.filter fun resource _ => keep resource).mapValues
      fun resource state =>
        (Estimator.forResource resource quantiles).load state) resource
  rw [SortedMap.find?_mapValues, SortedMap.find?_filter] at lookup
  exact lookup

end

section

variable [Analytic α]

theorem estimator?_update (profiler : Profiler α) (spec : Spec α)
    (name : String) (resource : Resource) :
    (profiler.update spec).estimator? name resource =
      ((profiler.estimator? name resource).filter fun _ =>
        spec.asksFor resource).map fun estimator =>
          estimator.setQuantiles spec.quantiles := by
  unfold estimator? update follow publish storeSpec
  simp only [SortedMap.find?_mapValues]
  cases profiler.entries.find? name with
  | none => rfl
  | some entry =>
      simp [Entry.relabel, Entry.restrict]

theorem find?_takeOver (profiler : Profiler α) (now : Instant)
    (checkpoint : Checkpoint α) (name : String) :
    (profiler.takeOver now checkpoint).entries.find? name =
      match checkpoint.entries.find? name with
      | some saved => some
          (((profiler.entries.find? name).getD (Entry.empty now)).loadAll
            profiler.spec.quantiles profiler.spec.asksFor saved)
      | none => profiler.entries.find? name := by
  unfold takeOver
  rw [SortedMap.find?_foldl_alter]
  cases checkpoint.entries.find? name <;> rfl

/-- Restoring takes over the saved estimators of resources that the spec asks
for, and keeps others. -/
theorem estimator?_takeOver (profiler : Profiler α) (now : Instant)
    (checkpoint : Checkpoint α) (name : String) (resource : Resource) :
    (profiler.takeOver now checkpoint).estimator? name resource =
      ((((checkpoint.entries.find? name).bind fun saved =>
        saved.find? resource).filter fun _ =>
          profiler.spec.asksFor resource).map
            (Estimator.forResource resource profiler.spec.quantiles).load).or
        (profiler.estimator? name resource) := by
  rw [estimator?, find?_takeOver, estimator?]
  cases checkpoint.entries.find? name with
  | none => simp
  | some saved =>
      simp only [Option.bind_some, Entry.find?_loadAll]
      cases profiler.entries.find? name <;> simp [Entry.empty]

/-- Restoring remembers no time of a sample. -/
theorem lastFolded?_takeOver (profiler : Profiler α) (now : Instant)
    (checkpoint : Checkpoint α) (name : String) (observed : Observed) :
    (profiler.takeOver now checkpoint).lastFolded? name observed =
      profiler.lastFolded? name observed := by
  rw [lastFolded?, find?_takeOver, lastFolded?]
  cases checkpoint.entries.find? name with
  | none => rfl
  | some saved =>
      cases profiler.entries.find? name with
      | none => rfl
      | some entry => rfl

theorem restore_eq_ok_iff {profiler restored : Profiler α} {now : Instant}
    {checkpoint : Checkpoint α} :
    profiler.restore now checkpoint = .ok restored ↔
      (profiler.takeOver now checkpoint).Reportable ∧
        (profiler.takeOver now checkpoint).publish = restored := by
  by_cases reportable : (profiler.takeOver now checkpoint).Reportable
  · simp [restore, reportable]
  · simp [restore, reportable]

theorem follows_create (key : ProfileKey) (spec : Spec α) :
    (create key spec).Follows := every_create _ key spec

theorem follows_publish {profiler : Profiler α} :
    profiler.publish.Follows ↔ profiler.Follows := Iff.rfl

/-- A change of the spec makes all estimators follow the new spec. -/
theorem follows_update (profiler : Profiler α) (spec : Spec α) :
    (profiler.update spec).Follows := by
  intro name resource estimator found
  rw [estimator?_update] at found
  obtain ⟨earlier, kept, rfl⟩ := Option.map_eq_some_iff.1 found
  exact ⟨(Option.filter_eq_some_iff.1 kept).2, rfl⟩

theorem follows_takeOver {profiler : Profiler α}
    (follows : profiler.Follows) (now : Instant)
    (checkpoint : Checkpoint α) :
    (profiler.takeOver now checkpoint).Follows := by
  intro name resource estimator found
  rw [estimator?_takeOver, Option.or_eq_some_iff] at found
  rcases found with loaded | ⟨-, kept⟩
  · obtain ⟨state, saved, rfl⟩ := Option.map_eq_some_iff.1 loaded
    exact ⟨(Option.filter_eq_some_iff.1 saved).2, rfl⟩
  · exact follows name resource estimator kept

theorem follows_restore {profiler restored : Profiler α} {now : Instant}
    {checkpoint : Checkpoint α} (follows : profiler.Follows)
    (succeeded : profiler.restore now checkpoint = .ok restored) :
    restored.Follows := by
  obtain ⟨-, rfl⟩ := restore_eq_ok_iff.1 succeeded
  exact follows_publish.2 (follows_takeOver follows now checkpoint)

theorem ingest_quantiles (estimator : Estimator α) (sample : Sample α) :
    (estimator.ingest sample).quantiles = estimator.quantiles := by
  unfold Estimator.ingest
  split <;> rfl

variable {settings : Settings α} {resolver : Resolver}
  {repository : Repository α} {now : Instant} {profiler : Profiler α}

theorem follows_advance {pods : List Pod} (follows : profiler.Follows) :
    (profiler.advance settings resolver repository now pods).Follows := by
  apply every_advance
  · intro resource asked
    exact ⟨asked, rfl⟩
  · intro resource estimator factor following
    exact following
  · intro resource estimator sample following
    exact ⟨following.1, (ingest_quantiles _ _).trans following.2⟩
  · exact follows

theorem follows_profile {σ : Type} [CheckpointStore σ α] {store : σ}
    (follows : profiler.Follows) :
    (profiler.profile settings resolver repository now
      store).profiler.Follows := by
  rcases profile_cases settings resolver repository now profiler store with
    ⟨-, -, same, -⟩ | ⟨pods, -, ⟨-, published, -⟩ | ⟨-, stopped, -⟩⟩
  · rw [same]
    exact follows
  · rw [published]
    exact follows_publish.2 (follows_advance follows)
  · rw [stopped]
    exact follows_advance follows

/-- What can become of a profiler. -/
inductive Reachable : Profiler α → Prop where
  | create (key : ProfileKey) (spec : Spec α) :
      Reachable (create key spec)
  | update {profiler : Profiler α} (spec : Spec α) :
      Reachable profiler → Reachable (profiler.update spec)
  | restore {profiler restored : Profiler α} {now : Instant}
      {checkpoint : Checkpoint α} :
      Reachable profiler →
      profiler.restore now checkpoint = .ok restored →
      Reachable restored
  | profile {σ : Type} [CheckpointStore σ α] {profiler : Profiler α}
      (settings : Settings α) (resolver : Resolver)
      (repository : Repository α) (now : Instant) (store : σ) :
      Reachable profiler →
      Reachable (profiler.profile settings resolver repository now
        store).profiler

/-- At every time the estimators of a profiler follow its spec. -/
theorem Reachable.follows {profiler : Profiler α}
    (reachable : Reachable profiler) : profiler.Follows := by
  induction reachable with
  | create key spec => exact follows_create key spec
  | update spec _ _ => exact follows_update _ spec
  | restore _ succeeded induction => exact follows_restore induction succeeded
  | profile _ _ _ _ _ _ induction => exact follows_profile induction

end

end Profiler

end UsageForecast
