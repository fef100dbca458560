import UsageForecast.Proofs.InstantOrder
import UsageForecast.Proofs.PodTotals
import UsageForecast.Proofs.QuantityGrammar
import UsageForecast.Proofs.RepeatedCycles
import UsageForecast.Proofs.RestoredResult

/-!
# The lifetime of an estimator

While an entry is not evicted and its resource is asked for, the figures of
the estimator only extend: samples are counted and never forgotten, and the
extremes of the values and of the times only move apart.  An estimator can be
made by a sample that is not finite; its zeros stand for no value, and its
least value may rise with the first sample that counts.
-/

namespace UsageForecast

namespace Estimator

namespace Figures

variable {α : Type} [Scalar α]

/-- What holds of the figures at every time. -/
structure Orderly (figures : Figures α) : Prop where
  extremes : figures.least ≤ figures.greatest
  uncounted : figures.count = 0 → figures.greatest = 0
  times : ∀ first ∈ figures.firstSampleStart,
    ∀ last ∈ figures.lastSampleStart, first ≤ last

/-- The figures take in all that earlier ones have taken in. -/
structure Extends (later earlier : Figures α) : Prop where
  count : earlier.count ≤ later.count
  greatest : earlier.greatest ≤ later.greatest
  -- Without samples the least value is a zero that stands for none.
  least : earlier.count ≠ 0 → later.least ≤ earlier.least
  first : ∀ time ∈ earlier.firstSampleStart,
    ∃ first ∈ later.firstSampleStart, first ≤ time
  last : ∀ time ∈ earlier.lastSampleStart,
    ∃ last ∈ later.lastSampleStart, time ≤ last

variable [OrderedScalar α] {earlier middle later figures : Figures α}

open OrderedScalar

theorem Orderly.extends_self (orderly : figures.Orderly) :
    figures.Extends figures where
  count := UInt64.le_refl _
  greatest := (le_self_of_le orderly.extremes).2
  least _ := (le_self_of_le orderly.extremes).1
  first time found := ⟨time, found, Std.le_refl time⟩
  last time found := ⟨time, found, Std.le_refl time⟩

theorem Extends.trans (upper : later.Extends middle)
    (lower : middle.Extends earlier) : later.Extends earlier where
  count := UInt64.le_trans lower.count upper.count
  greatest := le_trans lower.greatest upper.greatest
  least counted := by
    have still : middle.count ≠ 0 := by
      intro none
      have below := lower.count
      rw [none] at below
      exact counted (UInt64.le_zero_iff.1 below)
    exact le_trans (upper.least still) (lower.least counted)
  first time found := by
    obtain ⟨between, held, before⟩ := lower.first time found
    obtain ⟨first, kept, sooner⟩ := upper.first between held
    exact ⟨first, kept, Std.le_trans sooner before⟩
  last time found := by
    obtain ⟨between, held, after⟩ := lower.last time found
    obtain ⟨last, kept, later⟩ := upper.last between held
    exact ⟨last, kept, Std.le_trans after later⟩

end Figures

section

variable {α : Type} [Analytic α] {estimator : Estimator α}
  {sample : Sample α}

theorem ingest_of_infinite (infinite : Scalar.isFinite sample.value = false) :
    estimator.ingest sample = estimator := by
  rw [ingest, infinite]
  rfl

theorem toNat_count_ingest (finite : Scalar.isFinite sample.value = true)
    (fits : estimator.count.toNat + 1 < UInt64.size) :
    (estimator.ingest sample).count.toNat = estimator.count.toNat + 1 := by
  rw [ingest, if_pos finite]
  exact (UInt64.toNat_add _ _).trans (Nat.mod_eq_of_lt fits)

theorem toNat_count_ingest_le
    (fits : estimator.count.toNat + 1 < UInt64.size) :
    (estimator.ingest sample).count.toNat ≤ estimator.count.toNat + 1 := by
  cases finite : Scalar.isFinite sample.value with
  | false =>
      rw [ingest_of_infinite finite]
      exact Nat.le_succ _
  | true => exact (toNat_count_ingest finite fits).le

variable (estimator) in
theorem extremes_ingest (finite : Scalar.isFinite sample.value = true) :
    (estimator.ingest sample).least =
        (if estimator.count = 0 then sample.value
          else Scalar.smaller estimator.least sample.value) ∧
      (estimator.ingest sample).greatest =
        if estimator.count = 0 then sample.value
        else Scalar.larger estimator.greatest sample.value := by
  have single : estimator.count + 1 = 1 ↔ estimator.count = 0 :=
    UInt64.add_eq_right
  simp only [ingest, finite, if_true, single, and_self]

variable (estimator) in
theorem firstSampleStart_ingest
    (finite : Scalar.isFinite sample.value = true) :
    ∃ first ∈ (estimator.ingest sample).firstSampleStart,
      first ≤ sample.timestamp ∧
        ∀ time ∈ estimator.firstSampleStart, first ≤ time := by
  rw [ingest, if_pos finite]
  refine ⟨_, rfl, ?_⟩
  cases estimator.firstSampleStart with
  | none => exact ⟨Std.le_refl _, fun time found => by cases found⟩
  | some first =>
      refine ⟨Std.min_le_right (a := first), ?_⟩
      rintro time ⟨⟩
      exact Std.min_le_left (a := first)

variable (estimator) in
theorem lastSampleStart_ingest
    (finite : Scalar.isFinite sample.value = true) :
    ∃ last ∈ (estimator.ingest sample).lastSampleStart,
      sample.timestamp ≤ last ∧
        ∀ time ∈ estimator.lastSampleStart, time ≤ last := by
  rw [ingest, if_pos finite]
  refine ⟨_, rfl, ?_⟩
  cases estimator.lastSampleStart with
  | none => exact ⟨Std.le_refl _, fun time found => by cases found⟩
  | some last =>
      refine ⟨Std.right_le_max (a := last), ?_⟩
      rintro time ⟨⟩
      exact Std.left_le_max (a := last)

variable [OrderedScalar α]

theorem orderly_ingest (orderly : estimator.figures.Orderly)
    (fits : estimator.count.toNat + 1 < UInt64.size) :
    (estimator.ingest sample).figures.Orderly := by
  cases finite : Scalar.isFinite sample.value with
  | false => rwa [ingest_of_infinite finite]
  | true =>
      have defined : sample.value ≤ sample.value :=
        OrderedScalar.le_self_of_finite finite
      obtain ⟨least, greatest⟩ := extremes_ingest estimator finite
      exact {
        extremes := by
          dsimp only [figures]
          rw [least, greatest]
          split
          · exact defined
          · exact Scalar.smaller_le_larger orderly.extremes defined
        uncounted := by
          intro none
          have counted := toNat_count_ingest finite fits
          rw [show (estimator.ingest sample).count = 0 from none] at counted
          cases counted
        times := by
          intro first started last ended
          obtain ⟨_, held, before, -⟩ :=
            firstSampleStart_ingest estimator finite
          obtain ⟨_, kept, after, -⟩ :=
            lastSampleStart_ingest estimator finite
          cases Option.mem_unique held started
          cases Option.mem_unique kept ended
          exact Std.le_trans before after }

theorem extends_ingest (orderly : estimator.figures.Orderly)
    (admitted : 0 ≤ sample.value)
    (fits : estimator.count.toNat + 1 < UInt64.size) :
    (estimator.ingest sample).figures.Extends estimator.figures := by
  cases finite : Scalar.isFinite sample.value with
  | false =>
      rw [ingest_of_infinite finite]
      exact orderly.extends_self
  | true =>
      have defined : sample.value ≤ sample.value :=
        OrderedScalar.le_self_of_finite finite
      obtain ⟨leastDefined, greatestDefined⟩ :=
        OrderedScalar.le_self_of_le orderly.extremes
      obtain ⟨least, greatest⟩ := extremes_ingest estimator finite
      exact {
        count := by
          rw [UInt64.le_iff_toNat_le]
          exact (toNat_count_ingest finite fits).symm ▸ Nat.le_succ _
        greatest := by
          dsimp only [figures]
          rw [greatest]
          split
          next none => rwa [show estimator.greatest = 0 from
            orderly.uncounted none]
          next => exact Scalar.left_le_larger greatestDefined defined
        least := by
          intro (counted : estimator.count ≠ 0)
          dsimp only [figures]
          rw [least, if_neg counted]
          exact Scalar.smaller_le_left leastDefined defined
        first := by
          intro time found
          obtain ⟨first, held, -, before⟩ :=
            firstSampleStart_ingest estimator finite
          exact ⟨first, held, before time found⟩
        last := by
          intro time found
          obtain ⟨last, held, -, after⟩ :=
            lastSampleStart_ingest estimator finite
          exact ⟨last, held, after time found⟩ }

omit [OrderedScalar α] in
theorem orderly_forResource [SignedScalar α] (resource : Resource)
    (quantiles : List (Quantile α)) :
    (forResource resource quantiles).figures.Orderly where
  extremes := SignedScalar.zero_nonneg
  uncounted _ := rfl
  times := by
    intro first found
    cases found

variable [SignedScalar α] {quantiles : List (Quantile α)}
  {resource : Resource} {samples : List (Sample α)}

omit [SignedScalar α] in
theorem extends_ingestAll_some (orderly : estimator.figures.Orderly)
    (admitted : ∀ sample ∈ samples, 0 ≤ sample.value)
    (fits : estimator.count.toNat + samples.length < UInt64.size) :
    ∃ last, ingestAll quantiles resource (some estimator) samples =
        some last ∧
      last.figures.Orderly ∧ last.figures.Extends estimator.figures := by
  induction samples generalizing estimator with
  | nil => exact ⟨estimator, rfl, orderly, orderly.extends_self⟩
  | cons sample samples induction =>
      rw [List.forall_mem_cons] at admitted
      rw [List.length_cons] at fits
      have room : estimator.count.toNat + 1 < UInt64.size := by omega
      have most : (estimator.ingest sample).count.toNat ≤
          estimator.count.toNat + 1 := toNat_count_ingest_le room
      have next : (estimator.ingest sample).figures.Orderly :=
        orderly_ingest orderly room
      obtain ⟨last, folded, after, above⟩ :=
        induction next admitted.2 (by omega)
      exact ⟨last, folded, after,
        above.trans (extends_ingest orderly admitted.1 room)⟩

/-- An estimator that is made by the first of some samples is orderly. -/
theorem orderly_ingestAll_none
    (admitted : ∀ sample ∈ samples, 0 ≤ sample.value)
    (fits : samples.length < UInt64.size) :
    ∀ last ∈ ingestAll quantiles resource none samples,
      last.figures.Orderly := by
  intro last made
  cases samples with
  | nil => cases made
  | cons sample samples =>
      have room : (forResource resource quantiles).count.toNat +
          (sample :: samples).length < UInt64.size := by
        change 0 + _ < _
        omega
      obtain ⟨other, folded, after, -⟩ := extends_ingestAll_some
        (orderly_forResource resource quantiles) admitted room
      rwa [Option.mem_unique made folded]

/-- Folding samples keeps the figures orderly and extends them. -/
theorem extends_ingestAll {known : Option (Estimator α)}
    (orderly : ∀ estimator ∈ known, estimator.figures.Orderly)
    (admitted : ∀ sample ∈ samples, 0 ≤ sample.value)
    (fits : (counted known).toNat + samples.length < UInt64.size) :
    (∀ last ∈ ingestAll quantiles resource known samples,
        last.figures.Orderly) ∧
      ∀ estimator ∈ known,
        ∃ last ∈ ingestAll quantiles resource known samples,
          last.figures.Extends estimator.figures := by
  cases known with
  | none =>
      have room : samples.length < UInt64.size := by omega
      exact ⟨orderly_ingestAll_none admitted room,
        fun estimator none => by cases none⟩
  | some estimator =>
      obtain ⟨last, folded, after, above⟩ :=
        extends_ingestAll_some (orderly estimator rfl) admitted fits
      rw [folded]
      refine ⟨?_, ?_⟩
      · rintro other ⟨⟩
        exact after
      · rintro other ⟨⟩
        exact ⟨last, rfl, above⟩

end

end Estimator

theorem Repository.nonneg_reading {α : Type} [Scalar α] [SignedScalar α]
    {repository : Repository α} {source : Source} {resource : Resource}
    {container : String} {pod : PodName} {sample : Sample α}
    (shown : repository.reading? source resource container pod =
      some sample) : 0 ≤ sample.value := by
  obtain ⟨measurement, read⟩ := read_of_reading shown
  exact Measurement.nonneg_of_read read

namespace Profiler

variable {α : Type} [Analytic α]

section

variable {resolver : Resolver} {repository : Repository α}
  {pods : List Pod} {profiler : Profiler α} {name : String}
  {resource : Resource}

/-- What a cycle offers to an entry is not negative: neither a reading nor the
total of the readings of a pod. -/
theorem nonneg_of_offer [SignedScalar α] {offer : Offer α}
    (offered : offer ∈ profiler.offersTo resolver repository pods name) :
    0 ≤ offer.sample.value := by
  cases level : profiler.key.level with
  | container =>
      obtain ⟨-, -, source, -, shown⟩ :=
        (mem_offersTo_container_iff level).1 offered
      exact Repository.nonneg_reading shown
  | pod =>
      by_cases idle : name ≠ podEntry ∨ pods = []
      · rw [offersTo_of_idle level idle] at offered
        cases offered
      obtain rfl : name = podEntry := by
        by_contra other
        exact idle (.inl other)
      obtain ⟨query, -, pod, -, first, rest, read, rfl⟩ :=
        (mem_offersTo_pod_iff level).1 offered
      refine Scalar.sum_nonneg fun value member => ?_
      obtain ⟨sample, listed, rfl⟩ := List.mem_map.1 member
      have shown : some sample ∈ podReadings repository query pod :=
        read ▸ List.mem_map_of_mem listed
      obtain ⟨container, -, reading⟩ := List.mem_map.1 shown
      exact Repository.nonneg_reading reading

variable (resolver repository pods profiler name resource) in
/-- The samples of a resource that a cycle folds into an entry when it has
found its pods. -/
def folds : List (Sample α) :=
  (samplesFor resource (taken (profiler.lastFolded? name)
    (profiler.offersTo resolver repository pods name))).map Prod.snd

variable (resolver repository profiler name resource) in
/-- The samples that a cycle folds can still be counted. -/
def CountsAll : Prop :=
  match resolver.pods profiler.key.target with
  | .ok pods =>
      (Estimator.counted (profiler.estimator? name resource)).toNat +
          (profiler.folds resolver repository pods name resource).length <
        UInt64.size
  | .error _ => True

instance :
    Decidable (profiler.CountsAll resolver repository name resource) := by
  unfold CountsAll
  split <;> infer_instance

theorem estimator?_profile {σ : Type} [CheckpointStore σ α]
    {settings : Settings α} {now : Instant} {store : σ}
    (resolved : resolver.pods profiler.key.target = .ok pods) :
    (profiler.profile settings resolver repository now
        store).profiler.estimator? name resource =
      (profiler.advance settings resolver repository now pods).estimator?
        name resource := by
  rw [estimator?, entries_profile resolved]
  rfl

end

/-- An operation on a registered profiler: a change of its spec or a cycle,
with whatever outcome.  The caches of two cycles may differ. -/
inductive Step (name : String) (resource : Resource) :
    Profiler α → Profiler α → Prop where
  | update (profiler : Profiler α) (spec : Spec α) :
      Step name resource profiler (profiler.update spec)
  | cycle {σ : Type} [CheckpointStore σ α] {profiler : Profiler α}
      (settings : Settings α) {resolver : Resolver}
      {repository : Repository α} (now : Instant) (store : σ) :
      profiler.CountsAll resolver repository name resource →
      Step name resource profiler
        (profiler.profile settings resolver repository now store).profiler

/-- The ways in which an estimator ends: its resource is not asked for any
longer, or its entry is evicted past the grace period. -/
inductive Loses (name : String) (resource : Resource) :
    Profiler α → Profiler α → Prop where
  | dropped (profiler : Profiler α) (spec : Spec α) :
      spec.asksFor resource = false →
      Loses name resource profiler (profiler.update spec)
  | evicted {σ : Type} [CheckpointStore σ α] {profiler : Profiler α}
      {settings : Settings α} {resolver : Resolver}
      {repository : Repository α} {now : Instant} {store : σ} :
      profiler.Overdue settings now name →
      (profiler.profile settings resolver repository now
        store).profiler.entries.contains name = false →
      Loses name resource profiler
        (profiler.profile settings resolver repository now store).profiler

/-- A profiler that was made for a key, or restored from the checkpoint of a
registered one, and what became of it. -/
inductive Registered (name : String) (resource : Resource) :
    Profiler α → Prop where
  | create (key : ProfileKey) (spec : Spec α) :
      Registered name resource (create key spec)
  | restore {saved restored : Profiler α} {key : ProfileKey} {spec : Spec α}
      {time now : Instant} :
      Registered name resource saved →
      (Profiler.create key spec).restore now (saved.checkpoint time) =
        .ok restored →
      Registered name resource restored
  | step {profiler next : Profiler α} :
      Registered name resource profiler →
      Step name resource profiler next →
      Registered name resource next

/-- A run of operations in which an estimator does not end. -/
inductive Lives (name : String) (resource : Resource) (first : Profiler α) :
    Profiler α → Prop where
  | start : Lives name resource first first
  | step {profiler next : Profiler α} :
      Lives name resource first profiler →
      Step name resource profiler next →
      ¬ Loses name resource profiler next →
      Lives name resource first next

section

variable {profiler next : Profiler α} {name : String} {resource : Resource}

/-- The figures of an estimator are orderly, if there is one. -/
def OrderlyAt (name : String) (resource : Resource)
    (profiler : Profiler α) : Prop :=
  ∀ figures ∈ profiler.figures? name resource, figures.Orderly

theorem figures?_update (profiler : Profiler α) (spec : Spec α)
    (name : String) (resource : Resource) :
    (profiler.update spec).figures? name resource =
      (profiler.figures? name resource).filter fun _ =>
        spec.asksFor resource := by
  rw [figures?, estimator?_update, figures?]
  cases profiler.estimator? name resource with
  | none => rfl
  | some estimator => cases spec.asksFor resource <;> rfl

/-- An operation that ends an estimator leaves none behind. -/
theorem Loses.gone (loses : Loses name resource profiler next) :
    next.figures? name resource = none := by
  cases loses with
  | dropped _ spec refused =>
      rw [figures?_update, refused]
      cases profiler.figures? name resource <;> rfl
  | evicted overdue gone =>
      have absent := Option.isSome_eq_false_iff.1 gone
      rw [figures?, estimator?, Option.isNone_iff_eq_none.1 absent]
      rfl

theorem not_loses {β : Type} {change : Estimator.Figures α → β} {value : β}
    (known : (next.figures? name resource).map change = some value) :
    ¬ Loses name resource profiler next := by
  intro loses
  rw [loses.gone] at known
  cases known

/-- A restored profiler has the figures that the saved one would keep under
its spec. -/
theorem figures?_restored {saved restored : Profiler α} {key : ProfileKey}
    {spec : Spec α} {time now : Instant}
    (succeeded : (create key spec).restore now (saved.checkpoint time) =
      .ok restored) :
    restored.figures? name resource =
      (saved.update spec).figures? name resource := by
  obtain ⟨-, rfl⟩ := restore_eq_ok_iff.1 succeeded
  exact congrArg (Option.map Estimator.figures) <|
    estimator?_congr
      (estimators_takeOver_checkpoint saved key spec time now name) resource

omit [Analytic α] in
theorem Entry.follow_follow (entry : Entry α) (keep : Resource → Bool)
    (quantiles : List (Quantile α)) :
    (((entry.restrict keep).relabel quantiles).restrict keep).relabel
        quantiles =
      (entry.restrict keep).relabel quantiles := by
  have estimators :
      ((((entry.restrict keep).relabel quantiles).restrict keep).relabel
          quantiles).estimators =
        ((entry.restrict keep).relabel quantiles).estimators := by
    apply Entry.estimators_relabel_restrict
    intro resource estimator found
    rw [relabel, SortedMap.find?_mapValues, restrict,
      SortedMap.find?_filter] at found
    obtain ⟨before, kept, rfl⟩ := Option.map_eq_some_iff.1 found
    exact ⟨(Option.filter_eq_some_iff.1 kept).2, rfl⟩
  have folded :
      ((((entry.restrict keep).relabel quantiles).restrict keep).relabel
          quantiles).folded =
        ((entry.restrict keep).relabel quantiles).folded := by
    apply SortedMap.eq_of_find?_eq
    intro observed
    simp only [relabel, restrict, SortedMap.find?_filter,
      Option.filter_filter, Bool.and_self]
  change Entry.mk _ _ _ = Entry.mk _ _ _
  rw [Entry.mk.injEq]
  exact ⟨estimators, rfl, folded⟩

/-- A profiler that follows a spec is left as it is by the spec. -/
theorem update_update (profiler : Profiler α) (spec : Spec α) :
    (profiler.update spec).update spec = profiler.update spec := by
  have entries : ((profiler.update spec).update spec).entries =
      (profiler.update spec).entries := by
    apply SortedMap.eq_of_find?_eq
    intro name
    rw [find?_update, find?_update, Option.map_map]
    refine Option.map_congr fun entry _ => ?_
    exact entry.follow_follow spec.asksFor spec.quantiles
  calc (profiler.update spec).update spec
    _ = publish { profiler.update spec with
          entries := ((profiler.update spec).update spec).entries } := rfl
    _ = publish (profiler.update spec) := by rw [entries]
    _ = profiler.update spec := rfl

variable [OrderedScalar α] [SignedScalar α]

section

variable {settings : Settings α} {resolver : Resolver}
  {repository : Repository α} {now : Instant} {pods : List Pod}

variable (settings) in
/-- What a cycle folds extends the figures of the estimator that folds it. -/
theorem extends_folds (orderly : profiler.OrderlyAt name resource)
    (fits : (Estimator.counted (profiler.estimator? name resource)).toNat +
        (profiler.folds resolver repository pods name resource).length <
      UInt64.size) :
    let next := Estimator.ingestAll profiler.spec.quantiles resource
      ((profiler.estimator? name resource).map fun estimator =>
        estimator.decay (profiler.cycleFactor settings))
      (profiler.folds resolver repository pods name resource)
    (∀ last ∈ next, last.figures.Orderly) ∧
      ∀ earlier ∈ profiler.figures? name resource,
        ∃ last ∈ next, last.figures.Extends earlier := by
  intro next
  have admitted : ∀ sample ∈ profiler.folds resolver repository pods name
      resource, 0 ≤ sample.value := by
    intro sample folded
    obtain ⟨⟨pod, _⟩, listed, rfl⟩ := List.mem_map.1 folded
    exact nonneg_of_offer (taken_subset (mem_samplesFor_iff.1 listed))
  have aged : ∀ estimator ∈ (profiler.estimator? name resource).map
      fun estimator => estimator.decay (profiler.cycleFactor settings),
      estimator.figures.Orderly := by
    intro estimator held
    obtain ⟨before, known, rfl⟩ := Option.map_eq_some_iff.1 held
    exact orderly before.figures (Option.mem_map_of_mem _ known)
  rw [← Estimator.counted_decay (profiler.cycleFactor settings)] at fits
  obtain ⟨after, extended⟩ := Estimator.extends_ingestAll aged admitted fits
  refine ⟨after, fun earlier held => ?_⟩
  obtain ⟨estimator, known, rfl⟩ := Option.map_eq_some_iff.1 held
  exact extended (estimator.decay (profiler.cycleFactor settings))
    (Option.mem_map_of_mem _ known)

variable {σ : Type} [CheckpointStore σ α]

omit [OrderedScalar α] [SignedScalar α] in
/-- An estimator that a cycle does not end keeps its entry. -/
theorem kept_of_survives {store : σ}
    (found : resolver.pods profiler.key.target = .ok pods)
    (survives : ¬ Loses name resource profiler
      (profiler.profile settings resolver repository now store).profiler)
    {figures : Estimator.Figures α}
    (known : figures ∈ profiler.figures? name resource) :
    (profiler.advance settings resolver repository now
      pods).entries.contains name := by
  by_contra gone
  rcases (kept_or_overdue name).resolve_left gone with
    ⟨-, unknown | overdue⟩
  · rw [figures?, estimator?, unknown] at known
    cases known
  · refine survives (.evicted overdue ?_)
    rw [entries_profile found]
    exact Bool.eq_false_iff.2 gone

/-- A cycle keeps the figures of an estimator orderly and, unless it ends the
estimator, extends them. -/
theorem extends_profile (store : σ)
    (orderly : profiler.OrderlyAt name resource)
    (fits : profiler.CountsAll resolver repository name resource) :
    let cycle := profiler.profile settings resolver repository now store
    cycle.profiler.OrderlyAt name resource ∧
      (¬ Loses name resource profiler cycle.profiler →
        ∀ earlier ∈ profiler.figures? name resource,
          ∃ later ∈ cycle.profiler.figures? name resource,
            later.Extends earlier) := by
  intro cycle
  cases found : resolver.pods profiler.key.target with
  | error failure =>
      have same : cycle.profiler = profiler := profiler_of_unresolved found
      rw [same]
      exact ⟨orderly, fun _ earlier held =>
        ⟨earlier, held, (orderly earlier held).extends_self⟩⟩
  | ok pods =>
      rw [CountsAll, found] at fits
      obtain ⟨after, extended⟩ := extends_folds settings orderly fits
      have next : cycle.profiler.estimator? name resource =
          (profiler.advance settings resolver repository now
            pods).estimator? name resource := estimator?_profile found
      constructor
      · intro figures held
        obtain ⟨last, known, rfl⟩ := Option.map_eq_some_iff.1 held
        rw [next] at known
        obtain ⟨entry, named, -⟩ := Option.bind_eq_some_iff.1 known
        rw [estimator?_of_kept resource
          (SortedMap.contains_iff.2 ⟨entry, named⟩)] at known
        exact after last known
      · intro survives earlier held
        obtain ⟨last, folded, above⟩ := extended earlier held
        refine ⟨last.figures, ?_, above⟩
        rw [figures?, next,
          estimator?_of_kept resource (kept_of_survives found survives held)]
        exact Option.mem_map_of_mem _ folded

end

/-- An operation keeps the figures of an estimator orderly and, unless it ends
the estimator, extends them. -/
theorem Step.extends (step : Step name resource profiler next)
    (orderly : profiler.OrderlyAt name resource) :
    next.OrderlyAt name resource ∧
      (¬ Loses name resource profiler next →
        ∀ earlier ∈ profiler.figures? name resource,
          ∃ later ∈ next.figures? name resource, later.Extends earlier) := by
  cases step with
  | update _ spec =>
      simp only [OrderlyAt, figures?_update, Option.mem_filter_iff]
      refine ⟨fun figures held => orderly figures held.1, ?_⟩
      intro survives earlier held
      have asked : spec.asksFor resource = true := by
        by_contra dropped
        exact survives (.dropped profiler spec (Bool.eq_false_iff.2 dropped))
      exact ⟨earlier, ⟨held, asked⟩, (orderly earlier held).extends_self⟩
  | cycle settings now store fits =>
      exact extends_profile store orderly fits

theorem Registered.orderly (registered : Registered name resource profiler) :
    profiler.OrderlyAt name resource := by
  induction registered with
  | create key spec =>
      intro figures held
      cases held
  | restore _ succeeded induction =>
      intro figures held
      rw [figures?_restored succeeded, figures?_update] at held
      exact induction figures (Option.mem_filter_iff.1 held).1
  | step _ step induction => exact (step.extends induction).1

theorem Lives.extends {first last : Profiler α}
    (lives : Lives name resource first last)
    (orderly : first.OrderlyAt name resource)
    {earlier : Estimator.Figures α}
    (known : earlier ∈ first.figures? name resource) :
    last.OrderlyAt name resource ∧
      ∃ later ∈ last.figures? name resource, later.Extends earlier := by
  induction lives with
  | start =>
      exact ⟨orderly, earlier, known, (orderly earlier known).extends_self⟩
  | step _ step survives induction =>
      obtain ⟨between, middle, held, above⟩ := induction
      obtain ⟨after, extended⟩ := step.extends between
      obtain ⟨later, found, further⟩ := extended survives middle held
      exact ⟨after, later, found, further.trans above⟩

/-- While an estimator of a registered profiler does not end, its number of
samples, its greatest value and its last time never decrease, and its first
time and, once there are samples, its least value never increase; its extremes
and its times are in order.  A change of the spec drops the estimators that it
does not ask for and gives the others its quantiles, and made twice it changes
nothing more. -/
theorem figures_extended {first last : Profiler α}
    (registered : Registered name resource first)
    (lives : Lives name resource first last)
    {earlier : Estimator.Figures α}
    (known : first.figures? name resource = some earlier) :
    (∃ later, last.figures? name resource = some later ∧
      later.Extends earlier ∧ later.Orderly) ∧
    ∀ spec : Spec α,
      (∀ other asked, (last.update spec).estimator? other asked =
        ((last.estimator? other asked).filter fun _ =>
          spec.asksFor asked).map fun estimator =>
            { estimator with quantiles := spec.quantiles }) ∧
      (last.update spec).update spec = last.update spec := by
  obtain ⟨orderly, later, found, above⟩ :=
    lives.extends registered.orderly known
  exact ⟨⟨later, found, above, orderly later found⟩, fun spec =>
    ⟨estimator?_update last spec, update_update last spec⟩⟩

/-- An estimator that folds two samples in each of two cycles, and is given
another spec then. -/
theorem app_extended :
    let sources := [.metricsApi, .prometheus "vms"]
    let first := Overlap.first sources
    let last := ((first.profiler.profile Overlap.settings Overlap.resolver
      Overlap.repository ⟨200, 0⟩ first.store).profiler.update
        (Overlap.spec [.metricsApi]))
    Registered "app" .cpu first.profiler ∧
      Lives "app" .cpu first.profiler last ∧
      ∃ earlier later, first.profiler.figures? "app" .cpu = some earlier ∧
        last.figures? "app" .cpu = some later ∧ later.Extends earlier ∧
        earlier.count = 2 ∧ later.count = 4 := by
  intro sources first last
  have registered : Registered "app" .cpu first.profiler :=
    .step (.create _ _) (.cycle _ _ _ (by decide +kernel))
  let second := first.profiler.profile Overlap.settings Overlap.resolver
    Overlap.repository ⟨200, 0⟩ first.store
  have twice : (first.profiler.figures? "app" .cpu).map (·.count) =
      some 2 := by decide +kernel
  have again : (second.profiler.figures? "app" .cpu).map (·.count) =
      some 4 := by decide +kernel
  have after : (last.figures? "app" .cpu).map (·.count) = some 4 := by
    decide +kernel
  have lives : Lives "app" .cpu first.profiler last := by
    refine .step (.step .start (.cycle _ _ _ (by decide +kernel)) ?_)
      (.update _ _) ?_
    · exact not_loses again
    · exact not_loses after
  obtain ⟨earlier, known, counted⟩ := Option.map_eq_some_iff.1 twice
  obtain ⟨⟨later, found, above, -⟩, -⟩ :=
    figures_extended registered lives known
  rw [found] at after
  exact ⟨registered, lives, earlier, later, known, found, above, counted,
    Option.some.inj after⟩

end

namespace Overflow

/-- A pod with two containers. -/
def pod : Pod :=
  ⟨⟨"default", "web-1"⟩, ∅, ["app", "proxy"], some "Running"⟩

def resolver : Resolver := ⟨[], Cache.empty.replace ⟨0, 0⟩ ⟨∅, [pod]⟩⟩

/-- What the containers use at a time. -/
def snapshot (seconds : Int) (app proxy : String) : UsageSnapshot Float :=
  (∅ : UsageSnapshot Float).insert pod.id
    (((PodUsage.empty ⟨seconds, 0⟩).insert "app" .cpu (.text app)).insert
      "proxy" .cpu (.text proxy))

def repository (seconds : Int) (app proxy : String) : Repository Float :=
  { caches := SortedMap.ofList [(.metricsApi,
      Cache.empty.replace ⟨90, 0⟩ (snapshot seconds app proxy))] }

def profiler : Profiler Float :=
  .create (.ofSpec (.pods "default" ⟨∅, []⟩) .pod
    (Overlap.spec [.metricsApi])) (Overlap.spec [.metricsApi])

/-- The total of the containers is beyond all doubles. -/
def first : Cycle (MemoryStore Float) Float :=
  profiler.profile Overlap.settings resolver
    (repository 0 "1e308" "1e308") ⟨100, 0⟩ ∅

def second : Cycle (MemoryStore Float) Float :=
  first.profiler.profile Overlap.settings resolver
    (repository 60 "2" "3") ⟨200, 0⟩ first.store

end Overflow

/-- The least value of an estimator without samples rises from the zero that
stands for none. -/
theorem least_raised_by_first_sample :
    let first := Overflow.first.profiler
    let second := Overflow.second.profiler
    Registered podEntry .cpu first ∧ Lives podEntry .cpu first second ∧
      (first.figures? podEntry .cpu).map (·.least) = some 0 ∧
      (second.figures? podEntry .cpu).map (·.least) =
        some (Scalar.scientific 5 0) ∧
      (0 : Float) < Scalar.scientific 5 0 := by
  intro first second
  have before : (first.figures? podEntry .cpu).map (·.least) = some 0 := by
    decide +kernel
  have after : (second.figures? podEntry .cpu).map (·.least) =
      some (Scalar.scientific 5 0) := by
    decide +kernel
  have registered : Registered podEntry .cpu first :=
    .step (.create _ _) (.cycle _ _ _ (by decide +kernel))
  have lives : Lives podEntry .cpu first second :=
    .step .start (.cycle _ _ _ (by decide +kernel)) (not_loses after)
  exact ⟨registered, lives, before, after, by decide +kernel⟩

end Profiler

end UsageForecast
