import UsageForecast.Proofs.PodTotals
import UsageForecast.Proofs.RefusedOperations
import UsageForecast.Proofs.RestoredResult

/-!
# How long entries are kept

An entry waits for its next observation since the last completed cycle that
observed it, or since it was made or restored.  A completed cycle keeps the
entries that it observes and those that have not waited for longer than the
grace period, and lets the latter age only.  Cycles that are skipped or fail
neither evict an entry nor put its end off.
-/

namespace UsageForecast.Profiler

instance {resolver : Resolver} {target : Target} {pods : List Pod}
    {container : String} :
    Decidable (Covers resolver target pods container) :=
  decidable_of_iff _ mem_containerNames_iff

section

variable {α : Type}

/-- A cycle that has found some pods observes an entry: that of a container
of the profile, or that of the pods as a whole, if there are any. -/
def Observes (resolver : Resolver) (pods : List Pod) (profiler : Profiler α)
    (name : String) : Prop :=
  match profiler.key.level with
  | .container => Covers resolver profiler.key.target pods name
  | .pod => name = podEntry ∧ pods ≠ []

instance {resolver : Resolver} {pods : List Pod} {profiler : Profiler α}
    {name : String} : Decidable (profiler.Observes resolver pods name) := by
  unfold Observes
  split <;> infer_instance

/-- A cycle makes the entry of the pods if there is none, even if there are no
pods to observe. -/
def Opens (profiler : Profiler α) (name : String) : Prop :=
  profiler.key.level = .pod ∧ name = podEntry ∧
    profiler.entries.contains name = false

instance {profiler : Profiler α} {name : String} :
    Decidable (profiler.Opens name) :=
  inferInstanceAs (Decidable (_ ∧ _ ∧ _))

def lastSeen? (profiler : Profiler α) (name : String) : Option Instant :=
  (profiler.entries.find? name).map Entry.lastSeen

theorem isSome_lastSeen? (profiler : Profiler α) (name : String) :
    (profiler.lastSeen? name).isSome = profiler.entries.contains name :=
  Option.isSome_map

end

variable {σ α : Type} [Analytic α] {settings : Settings α}
  {resolver : Resolver} {repository : Repository α} {now : Instant}
  {pods : List Pod} {profiler : Profiler α} {name : String}

variable (repository) in
/-- A cycle observes what it serves, unless it looks for pods and has found
none. -/
theorem observes_iff :
    profiler.Observes resolver pods name ↔
      name ∈ (profiler.offersFor resolver repository pods).map (·.1) ∧
        profiler.refreshes pods = true := by
  unfold Observes refreshes
  cases level : profiler.key.level with
  | container =>
      simp [offersFor_container level, mem_containerNames_iff]
  | pod => simp [offersFor_pod level]

/-- What a cycle serves without observing it is the entry of the pods. -/
theorem unobserved_of_served
    (served : name ∈
      (profiler.offersFor resolver repository pods).map (·.1))
    (unseen : profiler.refreshes pods = false) :
    profiler.key.level = .pod ∧ name = podEntry := by
  unfold refreshes at unseen
  cases level : profiler.key.level with
  | container =>
      rw [level] at unseen
      cases unseen
  | pod => simpa [offersFor_pod level] using served

theorem mem_offersFor_of_opens (opens : profiler.Opens name) :
    name ∈ (profiler.offersFor resolver repository pods).map (·.1) := by
  obtain ⟨level, rfl, -⟩ := opens
  simp [offersFor_pod level]

theorem lastSeen_recipient {seen : Bool} :
    (recipient settings profiler now seen name).lastSeen =
      if seen then now else (profiler.lastSeen? name).getD now := by
  rw [recipient, addressed, find?_decayAll, lastSeen?]
  cases profiler.entries.find? name <;> cases seen <;> rfl

/-- Once a cycle has served its offers, an entry was seen now if the cycle has
observed or made it, and when it was seen before otherwise. -/
private theorem lastSeen_served :
    ((profiler.served settings resolver repository now pods).1.find?
        name).map Entry.lastSeen =
      if profiler.Observes resolver pods name ∨ profiler.Opens name then
        some now
      else profiler.lastSeen? name := by
  rw [find?_served]
  by_cases served : name ∈
      (profiler.offersFor resolver repository pods).map (·.1)
  · rw [if_pos served, Option.map_some, Entry.lastSeen_takeAll,
      lastSeen_recipient]
    cases seen : profiler.refreshes pods with
    | true =>
        have observed : profiler.Observes resolver pods name :=
          (observes_iff repository).2 ⟨served, seen⟩
        rw [if_pos rfl, if_pos (Or.inl observed)]
    | false =>
        have unobserved : ¬ profiler.Observes resolver pods name := by
          intro observed
          have tended := ((observes_iff repository).1 observed).2
          rw [seen] at tended
          cases tended
        obtain ⟨level, whole⟩ := unobserved_of_served served seen
        rw [if_neg Bool.false_ne_true]
        have opens_iff : profiler.Opens name ↔
            profiler.lastSeen? name = none := by
          rw [Opens, ← isSome_lastSeen?, Option.isSome_eq_false_iff,
            Option.isNone_iff_eq_none]
          simp [level, whole]
        cases known : profiler.lastSeen? name with
        | none => rw [if_pos (Or.inr (opens_iff.2 known))]; rfl
        | some time => simp [unobserved, opens_iff, known]
  · have unobserved : ¬ profiler.Observes resolver pods name := fun seen =>
      served ((observes_iff repository).1 seen).1
    have unopened : ¬ profiler.Opens name := fun opens =>
      served (mem_offersFor_of_opens opens)
    rw [if_neg served, if_neg (not_or.2 ⟨unobserved, unopened⟩),
      Option.map_map]
    rfl

/-- A cycle keeps what it observes or makes, and what was seen no longer ago
than the grace period. -/
theorem lastSeen?_advance :
    (profiler.advance settings resolver repository now pods).lastSeen? name =
      if profiler.Observes resolver pods name ∨ profiler.Opens name then
        some now
      else (profiler.lastSeen? name).filter fun time =>
        time.within now (Instant.effectivePeriod settings.grace) := by
  have kept : (profiler.advance settings resolver repository now
      pods).lastSeen? name =
        (((profiler.served settings resolver repository now pods).1.find?
          name).map Entry.lastSeen).filter fun time =>
            time.within now (Instant.effectivePeriod settings.grace) := by
    rw [lastSeen?, find?_advance]
    cases (profiler.served settings resolver repository now pods).1.find?
        name with
    | none => rfl
    | some entry =>
        rw [Option.map_some, Option.map_some, Option.filter_some,
          Option.filter_some]
        change Option.map _ (if entry.lastSeen.within now _ then _ else _) = _
        split <;> rfl
  rw [kept, lastSeen_served]
  split
  next => rw [Option.filter_some, if_pos (Instant.within_self now _)]
  next => rfl

theorem lastSeen?_update (profiler : Profiler α) (spec : Spec α)
    (name : String) :
    (profiler.update spec).lastSeen? name = profiler.lastSeen? name := by
  rw [lastSeen?, find?_update, lastSeen?, Option.map_map]
  rfl

/-- The entries of a restored profiler were all seen when it was restored. -/
theorem lastSeen?_restored (key : ProfileKey) (spec : Spec α)
    (checkpoint : Checkpoint α) :
    ((create key spec).takeOver now checkpoint).lastSeen? name =
      (checkpoint.entries.find? name).map fun _ => now := by
  rw [lastSeen?, find?_takeOver]
  cases checkpoint.entries.find? name <;> rfl

variable (settings repository now) in
theorem lastSeen?_profile [CheckpointStore σ α] (store : σ)
    (resolved : resolver.pods profiler.key.target = .ok pods)
    (name : String) :
    (profiler.profile settings resolver repository now
        store).profiler.lastSeen? name =
      if profiler.Observes resolver pods name ∨ profiler.Opens name then
        some now
      else (profiler.lastSeen? name).filter fun time =>
        time.within now (Instant.effectivePeriod settings.grace) := by
  rw [← lastSeen?_advance, lastSeen?, entries_profile resolved]
  rfl

/-- Since when each entry of a profiler waits for an observation, as the
history of the profiler tells: since the last completed cycle that observed
it, or since it was made or restored. -/
inductive Awaits : Profiler α → (String → Option Instant) → Prop where
  | create (key : ProfileKey) (spec : Spec α) :
      Awaits (create key spec) fun _ => none
  | restore {key : ProfileKey} {spec : Spec α} {restored : Profiler α}
      {now : Instant} {checkpoint : Checkpoint α} :
      spec.validate = .ok () →
      (Profiler.create key spec).restore now checkpoint = .ok restored →
      Awaits restored fun name =>
        (checkpoint.entries.find? name).map fun _ => now
  | update {profiler : Profiler α} {since} (spec : Spec α) :
      Awaits profiler since → Awaits (profiler.update spec) since
  | refused {σ : Type} [CheckpointStore σ α] {profiler next : Profiler α}
      {since} {settings : Settings α} {resolver : Resolver}
      {repository : Repository α} {now : Instant} {store : σ} :
      Awaits profiler since →
      (profiler.profile settings resolver repository now
        store).outcome.Refused →
      (profiler.profile settings resolver repository now store).profiler =
        next →
      Awaits next since
  | completed {σ : Type} [CheckpointStore σ α] {profiler next : Profiler α}
      {since} {settings : Settings α} {resolver : Resolver}
      {repository : Repository α} {now : Instant} {store : σ}
      {pods : List Pod} {report : Report} :
      Awaits profiler since →
      resolver.pods profiler.key.target = .ok pods →
      (profiler.profile settings resolver repository now store).outcome =
        .completed report →
      (profiler.profile settings resolver repository now store).profiler =
        next →
      Awaits next fun name =>
        if profiler.Observes resolver pods name ∨ profiler.Opens name then
          some now
        else if next.entries.contains name then since name
        else none

/-- The times that a profiler records are those that its history tells. -/
theorem Awaits.eq {since : String → Option Instant}
    (awaits : profiler.Awaits since) : profiler.lastSeen? = since := by
  induction awaits with
  | create key spec => rfl
  | restore valid succeeded =>
      obtain ⟨-, rfl⟩ := restore_eq_ok_iff.1 succeeded
      funext name
      exact lastSeen?_restored _ _ _
  | update spec _ induction =>
      funext name
      rw [lastSeen?_update, induction]
  | refused _ refused ended induction =>
      obtain ⟨failure, unresolved⟩ := refused_iff.1 refused
      rw [← ended, profiler_of_unresolved unresolved, induction]
  | completed _ resolved _ ended induction =>
      subst ended
      funext name
      rw [← isSome_lastSeen?, lastSeen?_profile _ _ _ _ resolved,
        ← induction]
      split
      next => rfl
      next =>
        cases Profiler.lastSeen? _ name with
        | none => rfl
        | some time =>
            rw [Option.filter_some]
            split <;> rfl

/-- No history leads to statistics that cannot be reported. -/
theorem Awaits.bounded [OrderedScalar α] {since : String → Option Instant}
    (awaits : profiler.Awaits since) : profiler.Bounded := by
  induction awaits with
  | create key spec => exact every_create _ key spec
  | restore valid succeeded =>
      have follows := follows_restore (follows_create _ _) succeeded
      obtain ⟨reportable, rfl⟩ := restore_eq_ok_iff.1 succeeded
      exact bounded_of_reportable valid follows reportable
  | update spec _ induction => exact bounded_update induction spec
  | refused _ refused ended induction =>
      obtain ⟨failure, unresolved⟩ := refused_iff.1 refused
      rwa [← ended, profiler_of_unresolved unresolved]
  | completed _ resolved completed ended induction =>
      subst ended
      exact bounded_profile induction

omit [Analytic α] in
theorem isSome_within_grace {time : Option Instant}
    (representable : settings.grace ≤ Instant.longestPeriod) :
    (time.filter fun seen =>
        seen.within now (Instant.effectivePeriod settings.grace)).isSome ↔
      ∃ seen, time = some seen ∧ seen.within now settings.grace := by
  rw [Instant.effectivePeriod, if_pos representable]
  cases time <;> simp [Option.filter_some]

/-- A cycle lets the estimators of an entry that it keeps without observing it
age, and does nothing else to them. -/
theorem estimator?_of_unobserved (unobserved :
      ¬ profiler.Observes resolver pods name)
    (kept : (profiler.advance settings resolver repository now
      pods).entries.contains name) (resource : Resource) :
    (profiler.advance settings resolver repository now pods).estimator? name
        resource =
      (profiler.estimator? name resource).map fun estimator =>
        estimator.decay (profiler.cycleFactor settings) := by
  have nothing :
      profiler.offersTo resolver repository pods name = [] := by
    unfold Observes at unobserved
    cases level : profiler.key.level with
    | container =>
        rw [level] at unobserved
        exact offersTo_of_uncovered level unobserved
    | pod =>
        rw [level] at unobserved
        refine offersTo_of_idle level ?_
        by_contra busy
        exact unobserved (by simpa using busy)
  rw [estimator?_of_kept resource kept, nothing]
  rfl

section

variable [OrderedScalar α] [CheckpointStore σ α]

variable (resolver repository now) in
/-- A cycle that is refused keeps the entries as they are.  Every other cycle
is completed, and keeps exactly those that it observes, the entry of the pods
that it makes if there is none, and those whose last observation, as the
history of the profiler tells, is no longer ago than the grace period.  What
it keeps without observing it ages and does not change otherwise. -/
theorem entries_kept_exactly {since : String → Option Instant}
    (awaits : profiler.Awaits since)
    (representable : settings.grace ≤ Instant.longestPeriod) (store : σ) :
    let cycle := profiler.profile settings resolver repository now store
    (∀ name, profiler.entries.contains name = (since name).isSome) ∧
      (cycle.outcome.Refused ∧ cycle.profiler = profiler ∨
        ∃ pods report, resolver.pods profiler.key.target = .ok pods ∧
          cycle.outcome = .completed report ∧ ∀ name,
            (cycle.profiler.entries.contains name ↔
              profiler.Observes resolver pods name ∨ profiler.Opens name ∨
                profiler.entries.contains name ∧
                  ∃ seen, since name = some seen ∧
                    seen.within now settings.grace) ∧
            (cycle.profiler.entries.contains name →
              ¬ profiler.Observes resolver pods name →
                ∀ resource, cycle.profiler.estimator? name resource =
                  (profiler.estimator? name resource).map fun estimator =>
                    estimator.decay (profiler.cycleFactor settings))) := by
  intro cycle
  have known (name : String) :
      profiler.entries.contains name = (since name).isSome := by
    rw [← isSome_lastSeen?, awaits.eq]
  refine ⟨known, ?_⟩
  rcases profile_cases settings resolver repository now profiler store with
    ⟨failure, unresolved, same, -⟩ | ⟨pods, resolved, ended⟩
  · exact .inl ⟨refused_iff.2 ⟨failure, unresolved⟩, same⟩
  have reportable : (profiler.advance settings resolver repository now
      pods).Reportable := reportable_of_bounded (bounded_advance awaits.bounded)
  rcases ended with ⟨-, published, -, report, completed, -⟩ | ⟨stopped, -⟩
  · refine .inr ⟨pods, report, resolved, completed, fun name => ⟨?_, ?_⟩⟩
    · rw [known, ← isSome_lastSeen?, lastSeen?_profile _ _ _ _ resolved,
        awaits.eq, ← or_assoc]
      split
      next kept => simp [kept]
      next unkept =>
        rw [isSome_within_grace representable]
        constructor
        · rintro ⟨seen, told, recent⟩
          exact .inr ⟨by rw [told]; rfl, seen, told, recent⟩
        · rintro (kept | ⟨-, recent⟩)
          · exact absurd kept unkept
          · exact recent
    · have ended : cycle.profiler = _ := published
      intro kept unobserved resource
      rw [ended] at kept ⊢
      exact estimator?_of_unobserved unobserved kept resource
  · exact absurd reportable stopped

/-- The entry of a container outlives a cycle that fails and the pod, but not
for longer than the grace period since the cycle before. -/
theorem app_kept_for_grace :
    let first := Overlap.first [.metricsApi]
    let outage := first.profiler.profile Overlap.settings ⟨[], Cache.empty⟩
      Overlap.repository ⟨300, 0⟩ first.store
    let deserted : Resolver := ⟨[], Cache.empty.replace ⟨0, 0⟩ ⟨∅, []⟩⟩
    outage.outcome.Refused ∧
      Overlap.settings.grace ≤ Instant.longestPeriod ∧
      (∃ since, outage.profiler.Awaits since ∧
        since "app" = some ⟨100, 0⟩) ∧
      (outage.profiler.profile Overlap.settings deserted Overlap.repository
        ⟨700, 0⟩ outage.store).profiler.entries.contains "app" ∧
      ¬ (outage.profiler.profile Overlap.settings deserted
        Overlap.repository ⟨700, 1⟩
          outage.store).profiler.entries.contains "app" := by
  intro first outage deserted
  have completed : first.samples? = some 1 := by decide +kernel
  obtain ⟨report, ended, -⟩ := Cycle.completed_of_samples completed
  have refused : outage.outcome.Refused :=
    refused_iff.2 ⟨_, rfl⟩
  have found : Overlap.resolver.pods
      (Overlap.profiler [.metricsApi]).key.target = .ok [Overlap.pod] := by
    decide +kernel
  have observed : (Overlap.profiler [.metricsApi]).Observes Overlap.resolver
      [Overlap.pod] "app" := by
    decide +kernel
  obtain ⟨since, awaits, seen⟩ : ∃ since, outage.profiler.Awaits since ∧
      since "app" = some ⟨100, 0⟩ :=
    ⟨_, .refused (.completed (.create _ _) found ended rfl) refused rfl,
      if_pos (Or.inl observed)⟩
  have representable : Overlap.settings.grace ≤ Instant.longestPeriod := by
    decide
  have retained (now : Instant) :
      (outage.profiler.profile Overlap.settings deserted Overlap.repository
        now outage.store).profiler.entries.contains "app" ↔
          (⟨100, 0⟩ : Instant).within now 600 := by
    have emptied : deserted.pods outage.profiler.key.target = .ok [] := by
      decide +kernel
    have unobserved :
        ¬ outage.profiler.Observes deserted [] "app" := by
      decide +kernel
    have present : outage.profiler.entries.contains "app" = true := by
      decide +kernel
    rcases (entries_kept_exactly deserted Overlap.repository now awaits
      representable outage.store).2 with
      ⟨stopped, -⟩ | ⟨pods, -, resolved, -, kept⟩
    · obtain ⟨failure, unresolved⟩ := refused_iff.1 stopped
      rw [emptied] at unresolved
      cases unresolved
    · rw [emptied] at resolved
      cases resolved
      have unopened : ¬ outage.profiler.Opens "app" := by
        simp [Opens, present]
      simp only [(kept "app").1, unobserved, unopened, present, seen,
        false_or, true_and, Option.some.injEq, exists_eq_left']
      rfl
  refine ⟨refused, representable, ⟨since, awaits, seen⟩, ?_, ?_⟩
  · exact (retained _).2 (by decide)
  · rw [retained]
    decide

end

end UsageForecast.Profiler
