import UsageForecast.Proofs.Following
import UsageForecast.Proofs.ScalarOrder
import UsageForecast.Proofs.ValidSpec

/-!
# Sound profilers

The profilers of valid specs have estimators that follow the spec and whose
extremes are in order, and publish what they hold.  Cycles, changes of the
spec and restored checkpoints keep this up, and no cycle of such a profiler
stops at statistics that cannot be reported.
-/

namespace UsageForecast

theorem Estimator.bounded_ingest {α : Type} [Analytic α] [OrderedScalar α]
    {estimator : Estimator α} (bounded : estimator.Bounded)
    (sample : Sample α) : (estimator.ingest sample).Bounded := by
  unfold ingest
  split
  next finite =>
    have defined : sample.value ≤ sample.value :=
      OrderedScalar.le_self_of_finite finite
    refine .inr ?_
    by_cases single : estimator.count + 1 = 1
    · simpa [single] using defined
    · have counted : estimator.count ≠ 0 := by
        intro none
        apply single
        rw [none]
        rfl
      have ordered := bounded.resolve_left counted
      simpa [single] using Scalar.smaller_le_larger ordered defined
  next => exact bounded

namespace Profiler

variable {α : Type} [Analytic α]

/-- Every estimator has its extremes in order. -/
def Bounded (profiler : Profiler α) : Prop :=
  profiler.Every fun _ estimator => estimator.Bounded

/-- A profiler that is registered under a key. -/
structure Sound (key : ProfileKey) (profiler : Profiler α) : Prop where
  key_eq : profiler.key = key
  valid : profiler.spec.validate = .ok ()
  agrees : key.agrees profiler.spec = true
  follows : profiler.Follows
  bounded : profiler.Bounded
  published : profiler.result = profiler.summaries

theorem reportable_of_bounded {profiler : Profiler α}
    (bounded : profiler.Bounded) : profiler.Reportable := by
  rw [reportable_iff_every]
  intro name resource estimator found
  exact .inr (bounded name resource estimator found)

theorem bounded_of_reportable {profiler : Profiler α}
    (valid : profiler.spec.validate = .ok ()) (follows : profiler.Follows)
    (reportable : profiler.Reportable) : profiler.Bounded := by
  rw [reportable_iff_every] at reportable
  intro name resource estimator found
  refine (reportable name resource estimator found).resolve_left ?_
  intro unlabelled
  have quantiles := (follows name resource estimator found).2
  exact Spec.quantiles_ne_nil valid (quantiles.symm.trans unlabelled)

theorem bounded_update {profiler : Profiler α} (bounded : profiler.Bounded)
    (spec : Spec α) : (profiler.update spec).Bounded := by
  intro name resource estimator found
  rw [estimator?_update] at found
  obtain ⟨earlier, kept, rfl⟩ := Option.map_eq_some_iff.1 found
  exact bounded name resource earlier (Option.filter_eq_some_iff.1 kept).1

theorem Sound.update {key : ProfileKey} {profiler : Profiler α}
    (sound : profiler.Sound key) {spec : Spec α}
    (valid : spec.validate = .ok ()) (agrees : key.agrees spec = true) :
    (profiler.update spec).Sound key where
  key_eq := sound.key_eq
  valid := valid
  agrees := agrees
  follows := follows_update profiler spec
  bounded := bounded_update sound.bounded spec
  published := rfl

theorem sound_create {key : ProfileKey} {spec : Spec α}
    (valid : spec.validate = .ok ()) (agrees : key.agrees spec = true) :
    (create key spec).Sound key where
  key_eq := rfl
  valid := valid
  agrees := agrees
  follows := follows_create key spec
  bounded := every_create _ key spec
  published := rfl

theorem Sound.restore {key : ProfileKey} {profiler restored : Profiler α}
    (sound : profiler.Sound key) {now : Instant} {checkpoint : Checkpoint α}
    (succeeded : profiler.restore now checkpoint = .ok restored) :
    restored.Sound key := by
  have follows := follows_restore sound.follows succeeded
  obtain ⟨reportable, rfl⟩ := restore_eq_ok_iff.1 succeeded
  exact {
    key_eq := sound.key_eq
    valid := sound.valid
    agrees := sound.agrees
    follows
    bounded := bounded_of_reportable sound.valid follows
      (reportable_publish.2 reportable)
    published := rfl }

section

variable [OrderedScalar α] {settings : Settings α} {resolver : Resolver}
  {repository : Repository α} {now : Instant} {profiler : Profiler α}

theorem bounded_advance {pods : List Pod} (bounded : profiler.Bounded) :
    (profiler.advance settings resolver repository now pods).Bounded := by
  apply every_advance
  · intro resource asked
    exact .inl rfl
  · intro resource estimator factor ordered
    exact ordered
  · intro resource estimator sample ordered
    exact Estimator.bounded_ingest ordered sample
  · exact bounded

theorem bounded_profile {σ : Type} [CheckpointStore σ α] {store : σ}
    (bounded : profiler.Bounded) :
    (profiler.profile settings resolver repository now
      store).profiler.Bounded := by
  rcases profile_cases settings resolver repository now profiler store with
    ⟨-, -, same, -⟩ | ⟨pods, -, ⟨-, published, -⟩ | ⟨-, stopped, -⟩⟩
  · rwa [same]
  · rw [published]
    exact bounded_advance bounded
  · rw [stopped]
    exact bounded_advance bounded

variable (settings resolver repository now) in
/-- A cycle of a sound profiler is completed, or changes nothing. -/
theorem Sound.profile {key : ProfileKey} (sound : profiler.Sound key)
    {σ : Type} [CheckpointStore σ α] (store : σ) :
    let cycle := profiler.profile settings resolver repository now store
    cycle.profiler.Sound key ∧
      (cycle.profiler = profiler ∨
        ∃ report, cycle.outcome = .completed report) := by
  intro cycle
  rcases profile_cases settings resolver repository now profiler store with
    ⟨-, -, same, -⟩ | ⟨pods, -, ended⟩
  · have unchanged : cycle.profiler = profiler := same
    rw [unchanged]
    exact ⟨sound, .inl rfl⟩
  · have bounded : (profiler.advance settings resolver repository now
        pods).Bounded := bounded_advance sound.bounded
    rcases ended with ⟨-, published, -, report, completed, -⟩ | ⟨stopped, -⟩
    · have ended : cycle.profiler = _ := published
      rw [ended]
      refine ⟨?_, .inr ⟨report, completed⟩⟩
      exact {
        key_eq := sound.key_eq
        valid := sound.valid
        agrees := sound.agrees
        follows := follows_publish.2 (follows_advance sound.follows)
        bounded
        published := rfl }
    · exact absurd (reportable_of_bounded bounded) stopped

end

/-- The published distributions are for resources of the spec, and carry the
labels of its model. -/
theorem Sound.result {key : ProfileKey} {profiler : Profiler α}
    (sound : profiler.Sound key) {name : String} {entry : EntryResult α}
    {resource : Resource} {summary : Summary α}
    (named : profiler.result.find? name = some entry)
    (found : entry.find? resource = some summary) :
    resource ∈ profiler.spec.resources ∧ ∀ label,
      label ∈ summary.quantiles.keys ↔ label ∈ profiler.spec.labels := by
  rw [sound.published, summaries, SortedMap.find?_mapValues] at named
  obtain ⟨held, known, rfl⟩ := Option.map_eq_some_iff.1 named
  rw [Entry.result, SortedMap.find?_mapValues] at found
  obtain ⟨estimator, holds, rfl⟩ := Option.map_eq_some_iff.1 found
  have estimated : profiler.estimator? name resource = some estimator := by
    rw [estimator?, known]
    exact holds
  obtain ⟨asked, quantiles⟩ := sound.follows _ _ _ estimated
  refine ⟨List.contains_iff_mem.1 asked, ?_⟩
  intro label
  change label ∈ estimator.quantileValues.keys ↔ _
  rw [← Spec.labels_quantiles sound.valid, ← quantiles,
    Estimator.quantileValues, SortedMap.mem_keys_ofList, List.map_map]
  rfl

end Profiler

end UsageForecast
