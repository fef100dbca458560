import UsageForecast.Proofs.SavedEstimator
import UsageForecast.Proofs.SoundProfiler
import UsageForecast.Proofs.StoreLaws

/-!
# What a restored profiler publishes

A checkpoint can be restored under another spec than that of the profiler
that was saved.  The estimators that come back are those that the profiler
itself would keep if its spec were changed, with the same labels, and both
publish the same result.
-/

namespace UsageForecast.Profiler

variable {α : Type} [Analytic α]

/-- Loading the states of an entry under a spec gives the estimators that the
entry itself has once it follows the spec. -/
theorem Entry.estimators_loadAll_states (entry : Entry α) (opened : Instant)
    (quantiles : List (Quantile α)) (keep : Resource → Bool) :
    ((Entry.empty opened).loadAll quantiles keep entry.states).estimators =
      ((entry.restrict keep).relabel quantiles).estimators := by
  apply SortedMap.eq_of_find?_eq
  intro resource
  rw [Entry.find?_loadAll, Entry.states, SortedMap.find?_mapValues]
  simp only [Entry.relabel, Entry.restrict, SortedMap.find?_mapValues,
    SortedMap.find?_filter, Entry.empty, SortedMap.find?_empty,
    Option.or_none]
  cases entry.estimators.find? resource with
  | none => rfl
  | some estimator =>
      cases keep resource with
      | false => rfl
      | true => exact congrArg some (Estimator.load_state _ estimator)

theorem find?_update (profiler : Profiler α) (spec : Spec α)
    (name : String) :
    (profiler.update spec).entries.find? name =
      (profiler.entries.find? name).map fun entry =>
        (entry.restrict spec.asksFor).relabel spec.quantiles :=
  SortedMap.find?_mapValues _ _ _

/-- A restored profiler has the estimators of one that got the spec. -/
theorem estimators_takeOver_checkpoint (profiler : Profiler α)
    (key : ProfileKey) (spec : Spec α) (saved opened : Instant)
    (name : String) :
    (((create key spec).takeOver opened
        (profiler.checkpoint saved)).entries.find? name).map
          Entry.estimators =
      ((profiler.update spec).entries.find? name).map
        Entry.estimators := by
  rw [find?_takeOver, checkpoint, SortedMap.find?_mapValues, find?_update]
  cases profiler.entries.find? name with
  | none => rfl
  | some entry =>
      exact congrArg some (entry.estimators_loadAll_states opened _ _)

/-- What is reported depends on the estimators only. -/
theorem summaries_congr {left right : Profiler α}
    (same : ∀ name, (left.entries.find? name).map Entry.estimators =
      (right.entries.find? name).map Entry.estimators) :
    left.summaries = right.summaries := by
  apply SortedMap.eq_of_find?_eq
  intro name
  have reported (profiler : Profiler α) :
      profiler.summaries.find? name =
        ((profiler.entries.find? name).map Entry.estimators).map
          fun estimators => estimators.mapValues fun _ estimator =>
            estimator.summary := by
    rw [summaries, SortedMap.find?_mapValues, Option.map_map]
    rfl
  rw [reported, reported, same]

omit [Analytic α] in
theorem estimator?_congr {left right : Profiler α} {name : String}
    (same : (left.entries.find? name).map Entry.estimators =
      (right.entries.find? name).map Entry.estimators)
    (resource : Resource) :
    left.estimator? name resource = right.estimator? name resource := by
  have held (profiler : Profiler α) :
      profiler.estimator? name resource =
        ((profiler.entries.find? name).map Entry.estimators).bind
          fun estimators => estimators.find? resource := by
    rw [estimator?, Option.bind_map]
    rfl
  rw [held, same, ← held]

theorem reportable_congr {left right : Profiler α}
    (same : ∀ name, (left.entries.find? name).map Entry.estimators =
      (right.entries.find? name).map Entry.estimators)
    (reportable : left.Reportable) : right.Reportable := by
  rw [reportable_iff_every] at reportable ⊢
  intro name resource estimator found
  apply reportable name resource estimator
  rw [estimator?_congr (same name), found]

/-- What is saved depends on the estimators only. -/
theorem saved_entries_congr {left right : Profiler α}
    (same : ∀ name, (left.entries.find? name).map Entry.estimators =
      (right.entries.find? name).map Entry.estimators)
    (now later : Instant) :
    (left.checkpoint now).entries = (right.checkpoint later).entries := by
  apply SortedMap.eq_of_find?_eq
  intro name
  have stored (profiler : Profiler α) (time : Instant) :
      (profiler.checkpoint time).entries.find? name =
        ((profiler.entries.find? name).map Entry.estimators).map
          fun estimators => estimators.mapValues fun _ estimator =>
            estimator.state := by
    rw [checkpoint, SortedMap.find?_mapValues, Option.map_map]
    rfl
  rw [stored, stored, same]

/-- A checkpoint of a sound profiler is restored under every spec that the
profiler could get, with the estimators that it would have then. -/
theorem Sound.restore_estimators {key : ProfileKey} {profiler : Profiler α}
    (sound : profiler.Sound key) {spec : Spec α}
    (valid : spec.validate = .ok ()) (agrees : key.agrees spec = true)
    (saved opened : Instant) :
    ∃ restored,
      (create key spec).restore opened (profiler.checkpoint saved) =
          .ok restored ∧
        restored.result = restored.summaries ∧
        ∀ name, (restored.entries.find? name).map Entry.estimators =
          ((profiler.update spec).entries.find? name).map
            Entry.estimators := by
  have same := estimators_takeOver_checkpoint profiler key spec saved opened
  have updated : (profiler.update spec).Reportable :=
    reportable_of_bounded (sound.update valid agrees).bounded
  have reportable : ((create key spec).takeOver opened
      (profiler.checkpoint saved)).Reportable :=
    reportable_congr (fun name => (same name).symm) updated
  exact ⟨_, restore_eq_ok_iff.2 ⟨reportable, rfl⟩, rfl, same⟩

/-- The result of a restored profiler is the one that the profiler that was
saved would publish under the spec. -/
theorem Sound.restore_checkpoint {key : ProfileKey} {profiler : Profiler α}
    (sound : profiler.Sound key) {spec : Spec α}
    (valid : spec.validate = .ok ()) (agrees : key.agrees spec = true)
    (saved opened : Instant) :
    ∃ restored,
      (create key spec).restore opened (profiler.checkpoint saved) =
          .ok restored ∧
        restored.result = (profiler.update spec).result := by
  obtain ⟨restored, succeeded, published, same⟩ :=
    sound.restore_estimators valid agrees saved opened
  exact ⟨restored, succeeded, published.trans (summaries_congr same)⟩

omit [Analytic α] in
/-- An entry that follows a spec is left as it is by the spec. -/
theorem Entry.estimators_relabel_restrict {entry : Entry α}
    {quantiles : List (Quantile α)} {keep : Resource → Bool}
    (follows : ∀ resource estimator,
      entry.estimators.find? resource = some estimator →
        keep resource = true ∧ estimator.quantiles = quantiles) :
    ((entry.restrict keep).relabel quantiles).estimators =
      entry.estimators := by
  apply SortedMap.eq_of_find?_eq
  intro resource
  simp only [Entry.relabel, Entry.restrict, SortedMap.find?_mapValues,
    SortedMap.find?_filter]
  cases found : entry.estimators.find? resource with
  | none => rfl
  | some estimator =>
      obtain ⟨kept, rfl⟩ := follows resource estimator found
      rw [Option.filter_some, if_pos kept]
      rfl

/-- The spec that a sound profiler has leaves its estimators as they are. -/
theorem Sound.estimators_update {key : ProfileKey} {profiler : Profiler α}
    (sound : profiler.Sound key) (name : String) :
    ((profiler.update profiler.spec).entries.find? name).map
        Entry.estimators =
      (profiler.entries.find? name).map Entry.estimators := by
  rw [find?_update]
  cases named : profiler.entries.find? name with
  | none => rfl
  | some entry =>
      apply congrArg some
      apply Entry.estimators_relabel_restrict
      intro resource estimator found
      refine sound.follows name resource estimator ?_
      rw [estimator?, named]
      exact found

/-- The spec that a sound profiler has changes nothing in its result. -/
theorem Sound.result_update {key : ProfileKey} {profiler : Profiler α}
    (sound : profiler.Sound key) :
    (profiler.update profiler.spec).result = profiler.result := by
  rw [sound.published]
  exact summaries_congr sound.estimators_update

end UsageForecast.Profiler
