import UsageForecast.Proofs.OfferOrigin

/-!
# What a cycle leaves behind

A cycle whose target is resolved decays the entries, serves its offers to
them and evicts what is overdue.  Its effect is described here by look-ups:
which time was folded last for a slot, and which estimator an entry holds for
a resource.
-/

namespace UsageForecast

theorem Instant.within_self (now : Instant) (seconds : Nat) :
    now.within now seconds = true := by
  have bound : (0 : Int) ≤ (seconds : Int) * 1000000000 := by omega
  simp [within, bound]

theorem Spec.asksFor_iff {α : Type} {spec : Spec α} {resource : Resource} :
    spec.asksFor resource = true ↔
      ∃ source, (source, resource) ∈ spec.queries := by
  simp only [asksFor, resources, List.contains_iff_mem,
    mem_sortDistinct_iff, queries, List.mem_flatMap, List.mem_map,
    Prod.mk.injEq]
  constructor
  · rintro ⟨selection, listed, asked⟩
    exact ⟨_, selection, listed, resource, asked, rfl, rfl⟩
  · rintro ⟨_, selection, listed, _, asked, -, rfl⟩
    exact ⟨selection, listed, asked⟩

namespace Profiler

variable {α : Type}

/-- The time of the last sample folded for a slot of an entry. -/
def lastFolded? (profiler : Profiler α) (name : String)
    (observed : Observed) : Option Instant :=
  (profiler.entries.find? name).bind fun entry =>
    entry.folded.find? observed

/-- The estimator that an entry holds for a resource. -/
def estimator? (profiler : Profiler α) (name : String)
    (resource : Resource) : Option (Estimator α) :=
  (profiler.entries.find? name).bind fun entry =>
    entry.estimators.find? resource

/-- A property of all estimators of a profiler. -/
def Every (property : Resource → Estimator α → Prop)
    (profiler : Profiler α) : Prop :=
  ∀ name resource estimator,
    profiler.estimator? name resource = some estimator →
      property resource estimator

theorem reportable_iff_every [Scalar α] {profiler : Profiler α} :
    profiler.Reportable ↔
      profiler.Every fun _ estimator => estimator.Reportable := by
  simp only [Reportable, Entry.Reportable, SortedMap.mem_values_iff, Every,
    estimator?, Option.bind_eq_some_iff]
  constructor
  · rintro reportable name resource estimator ⟨entry, known, found⟩
    exact reportable entry ⟨name, known⟩ estimator ⟨resource, found⟩
  · rintro reportable entry ⟨name, known⟩ estimator ⟨resource, found⟩
    exact reportable name resource estimator ⟨entry, known, found⟩

/-- How many samples a cycle has folded, if it was completed. -/
def Cycle.samples? {σ : Type} (cycle : Cycle σ α) : Option Nat :=
  match cycle.outcome with
  | .completed report => some report.samples
  | _ => none

theorem Cycle.completed_of_samples {σ : Type} {cycle : Cycle σ α}
    {samples : Nat} (folded : cycle.samples? = some samples) :
    ∃ report, cycle.outcome = .completed report ∧
      report.samples = samples := by
  unfold samples? at folded
  split at folded
  next report completed =>
    exact ⟨report, completed, Option.some.inj folded⟩
  next => cases folded

/-- The cycle was completed and has folded no sample. -/
def Cycle.Idle {σ : Type} (cycle : Cycle σ α) : Prop :=
  cycle.samples? = some 0

variable [Analytic α]

section

variable (settings : Settings α) (resolver : Resolver)
  (repository : Repository α) (now : Instant) (pods : List Pod)
  (profiler : Profiler α)

/-- What a cycle offers for the pods that it has resolved. -/
def offersFor : List (String × List (Offer α)) :=
  offers repository profiler
    (containerNames resolver profiler.key.target pods) pods

/-- The entries after serving, and how many samples they folded. -/
def served : SortedMap String (Entry α) × Nat :=
  (profiler.offersFor resolver repository pods).foldl
    (serve profiler.spec.quantiles now (profiler.refreshes pods))
    (decayAll settings profiler.spec profiler.entries, 0)

/-- The profiler at the end of a cycle, before it publishes. -/
def advance : Profiler α :=
  { profiler with
    entries := evict settings now (pods.map Pod.id)
      (profiler.served settings resolver repository now pods).1 }

/-- Every offer is the last one that was folded for its slot. -/
def Settled : Prop :=
  ∀ name offered,
    (name, offered) ∈ profiler.offersFor resolver repository pods →
      ∀ offer ∈ offered, profiler.lastFolded? name offer.observed =
        some offer.sample.timestamp

/-- No slot of an entry is offered at two different times. -/
def Coherent : Prop :=
  ∀ name offered,
    (name, offered) ∈ profiler.offersFor resolver repository pods →
      Concordant offered

/-- The entry of a name was not observed for longer than the grace period. -/
def Overdue (name : String) : Prop :=
  ∃ entry, profiler.entries.find? name = some entry ∧
    entry.lastSeen.within now (Instant.effectivePeriod settings.grace) =
      false

/-- The factor by which a cycle shrinks the weights of past samples. -/
def cycleFactor : α :=
  decayFactor (profiler.spec.halfLifeOr settings.halfLife)

end

section

variable {settings : Settings α} {resolver : Resolver}
  {repository : Repository α} {now : Instant} {pods : List Pod}
  {profiler : Profiler α}

theorem coherent_of_separate (separate : profiler.spec.Separate) :
    profiler.Coherent resolver repository pods := by
  intro name offered member
  exact concordant_of_separate separate member

theorem offersFor_nodup :
    ((profiler.offersFor resolver repository pods).map (·.1)).Nodup :=
  offers_nodup repository profiler (sortDistinct_nodup _) pods

variable (settings resolver repository now pods profiler) in
/-- What a cycle has counted when it has observed its pods. -/
def tally : Tally :=
  (profiler.observe repository now
    (containerNames resolver profiler.key.target pods) pods
    (decayAll settings profiler.spec profiler.entries)).2

variable (settings now) in
private theorem observe_eq :
    (profiler.observe repository now
        (containerNames resolver profiler.key.target pods) pods
        (decayAll settings profiler.spec profiler.entries)).1 =
      (profiler.served settings resolver repository now pods).1 ∧
    (profiler.tally settings resolver repository now pods).samples =
      (profiler.served settings resolver repository now pods).2 :=
  Prod.mk.inj <| observe_eq_serve repository profiler now
    (containerNames resolver profiler.key.target pods) pods
    (decayAll settings profiler.spec profiler.entries)

variable (settings now) in
theorem samples_tally :
    (profiler.tally settings resolver repository now pods).samples =
      (profiler.served settings resolver repository now pods).2 :=
  (observe_eq settings now).2

variable (settings repository now) in
theorem observation_eq
    (resolved : resolver.pods profiler.key.target = .ok pods) :
    profiler.observation settings resolver repository now =
      .ok ⟨profiler.advance settings resolver repository now pods,
        pods.length,
        profiler.tally settings resolver repository now pods⟩ := by
  simp only [observation, resolved, bind, Except.bind, pure, Except.pure,
    advance, tally, ← (observe_eq settings now).1]

variable (settings repository now) in
/-- A cycle that has found its pods goes on to save and to publish. -/
theorem profile_of_resolved {σ : Type} [CheckpointStore σ α] (store : σ)
    (resolved : resolver.pods profiler.key.target = .ok pods) :
    profiler.profile settings resolver repository now store =
      Observation.finish
        ⟨profiler.advance settings resolver repository now pods,
          pods.length,
          profiler.tally settings resolver repository now pods⟩
        now store := by
  rw [profile, observation_eq settings repository now resolved]

variable (settings repository now) in
/-- A cycle that finds no pods leaves its profiler and the store alone. -/
theorem profile_of_unresolved {σ : Type} [CheckpointStore σ α] (store : σ)
    {failure : Failure}
    (unresolved : resolver.pods profiler.key.target = .error failure) :
    profiler.profile settings resolver repository now store =
      ⟨profiler, store,
        if failure.isNotFound then .skipped failure.message
        else .failed failure, 0, false⟩ := by
  simp only [profile, observation, unresolved, bind, Except.bind]

variable (settings resolver repository now profiler) in
/-- A cycle either finds no pods and changes nothing, or advances its
profiler and saves and publishes it, or stops at statistics that cannot be
reported. -/
theorem profile_cases {σ : Type} [CheckpointStore σ α] (store : σ) :
    let cycle := profiler.profile settings resolver repository now store
    (∃ failure, resolver.pods profiler.key.target = .error failure ∧
      cycle.profiler = profiler ∧ cycle.store = store ∧
      (cycle.outcome = .skipped failure.message ∨
        cycle.outcome = .failed failure)) ∨
    ∃ pods, resolver.pods profiler.key.target = .ok pods ∧
      let next := profiler.advance settings resolver repository now pods
      (next.Reportable ∧ cycle.profiler = next.publish ∧
        cycle.store =
          (CheckpointStore.save store (next.checkpoint now)).1 ∧
        ∃ report, cycle.outcome = .completed report ∧
          report.samples =
            (profiler.served settings resolver repository now pods).2) ∨
      (¬ next.Reportable ∧ cycle.profiler = next ∧ cycle.store = store ∧
        cycle.outcome = .crashed .unorderedBounds) := by
  intro cycle
  cases resolved : resolver.pods profiler.key.target with
  | error failure =>
      refine .inl ⟨failure, rfl, ?_⟩
      simp only [cycle,
        profile_of_unresolved settings repository now store resolved]
      cases failure.isNotFound <;> simp
  | ok pods =>
      refine .inr ⟨pods, rfl, ?_⟩
      intro next
      simp only [cycle,
        profile_of_resolved settings repository now store resolved,
        Observation.finish]
      by_cases reportable : next.Reportable
      · refine .inl ⟨reportable, ?_⟩
        rw [if_pos reportable]
        refine ⟨rfl, rfl, _, rfl, ?_⟩
        rw [← samples_tally settings now]
        cases (CheckpointStore.save store (next.checkpoint now)).2 <;> rfl
      · refine .inr ⟨reportable, ?_⟩
        rw [if_neg reportable]
        exact ⟨rfl, rfl, rfl⟩

/-- A completed cycle has advanced its profiler and published it. -/
theorem profile_of_samples {σ : Type} [CheckpointStore σ α] {store : σ}
    {samples : Nat}
    (completed : (profiler.profile settings resolver repository now
      store).samples? = some samples) :
    ∃ pods, resolver.pods profiler.key.target = .ok pods ∧
      let next := profiler.advance settings resolver repository now pods
      let cycle := profiler.profile settings resolver repository now store
      next.Reportable ∧ cycle.profiler = next.publish ∧
        cycle.store =
          (CheckpointStore.save store (next.checkpoint now)).1 ∧
        (profiler.served settings resolver repository now pods).2 =
          samples := by
  rw [Cycle.samples?] at completed
  rcases profile_cases settings resolver repository now profiler store with
    ⟨failure, -, -, -, ended⟩ | ⟨pods, resolved, ended⟩
  · rcases ended with skipped | failed
    · rw [skipped] at completed
      cases completed
    · rw [failed] at completed
      cases completed
  · rcases ended with ⟨reportable, published, stored, report, ending,
        folded⟩ | ⟨-, -, -, crashed⟩
    · rw [ending] at completed
      refine ⟨pods, resolved, reportable, published, stored, ?_⟩
      rw [← folded]
      exact Option.some.inj completed
    · rw [crashed] at completed
      cases completed

/-- What a completed cycle reports: the samples that it has folded, the
failures that it has met, and that of its save. -/
theorem profile_of_report {σ : Type} [CheckpointStore σ α] {store : σ}
    {report : Report}
    (completed : (profiler.profile settings resolver repository now
      store).outcome = .completed report) :
    let cycle := profiler.profile settings resolver repository now store
    ∃ pods, resolver.pods profiler.key.target = .ok pods ∧
      cycle.profiler = (profiler.advance settings resolver repository now
        pods).publish ∧
      report.samples =
        (profiler.served settings resolver repository now pods).2 ∧
      ∃ unsaved : Option String, unsaved.isSome = cycle.unsaved ∧
        report.failures =
          (profiler.tally settings resolver repository now pods).failures ++
            unsaved.toList := by
  rcases profile_cases settings resolver repository now profiler store with
    ⟨failure, -, -, -, skipped | failed⟩ | ⟨pods, resolved, ended⟩
  · rw [skipped] at completed
    cases completed
  · rw [failed] at completed
    cases completed
  · intro cycle
    rcases ended with ⟨reportable, published, -⟩ | ⟨-, -, -, crashed⟩
    · refine ⟨pods, resolved, published, ?_⟩
      simp only [cycle,
        profile_of_resolved settings repository now store resolved,
        Observation.finish, if_pos reportable] at completed ⊢
      obtain rfl := Outcome.completed.inj completed
      cases (CheckpointStore.save store ((profiler.advance settings resolver
          repository now pods).checkpoint now)).2 with
      | ok =>
          exact ⟨samples_tally settings now, none, rfl,
            (List.append_nil _).symm⟩
      | error failure =>
          exact ⟨samples_tally settings now, some failure.message, rfl, rfl⟩
    · rw [crashed] at completed
      cases completed

/-- A cycle is completed if its pods are found and it leaves behind what can
be reported. -/
theorem samples_of_reportable {σ : Type} [CheckpointStore σ α] (store : σ)
    (resolved : resolver.pods profiler.key.target = .ok pods)
    (reportable : (profiler.advance settings resolver repository now
      pods).Reportable) :
    let cycle := profiler.profile settings resolver repository now store
    cycle.samples? =
        some (profiler.served settings resolver repository now pods).2 ∧
      cycle.profiler = (profiler.advance settings resolver repository now
        pods).publish := by
  intro cycle
  rcases profile_cases settings resolver repository now profiler store with
    ⟨failure, unresolved, -⟩ | ⟨other, found, ended⟩
  · rw [resolved] at unresolved
    cases unresolved
  · obtain rfl : pods = other := by
      rw [resolved] at found
      exact Except.ok.inj found
    rcases ended with ⟨-, published, -, report, ending, folded⟩ |
        ⟨stopped, -⟩
    · refine ⟨?_, published⟩
      rw [Cycle.samples?, ending]
      exact congrArg some folded
    · exact absurd reportable stopped

theorem find?_decayAll (name : String) :
    (decayAll settings profiler.spec profiler.entries).find? name =
      (profiler.entries.find? name).map fun entry =>
        entry.decay (profiler.cycleFactor settings) :=
  SortedMap.find?_mapValues _ _ name

/-- The entry that offers under a name are made to in a cycle. -/
abbrev recipient (settings : Settings α) (profiler : Profiler α)
    (now : Instant) (seen : Bool) (name : String) : Entry α :=
  addressed (decayAll settings profiler.spec profiler.entries) now seen name

theorem folded_recipient {seen : Bool} {name : String}
    (observed : Observed) :
    (recipient settings profiler now seen name).folded.find? observed =
      profiler.lastFolded? name observed := by
  unfold recipient addressed lastFolded?
  rw [find?_decayAll]
  cases profiler.entries.find? name <;> cases seen <;> rfl

theorem estimator_recipient {seen : Bool} {name : String}
    (resource : Resource) :
    (recipient settings profiler now seen name).estimators.find? resource =
      (profiler.estimator? name resource).map fun estimator =>
        estimator.decay (profiler.cycleFactor settings) := by
  unfold recipient addressed estimator?
  rw [find?_decayAll]
  cases profiler.entries.find? name <;> cases seen <;>
    simp [Entry.decay, Entry.empty]

private theorem settled_recipient_iff {seen : Bool} {name : String}
    {offered : List (Offer α)} :
    (recipient settings profiler now seen name).Settled offered ↔
      ∀ offer ∈ offered, profiler.lastFolded? name offer.observed =
        some offer.sample.timestamp := by
  simp only [Entry.Settled, folded_recipient]

variable (settings now) in
/-- A cycle folds what is new of its offers, entry by entry. -/
theorem count_served :
    (profiler.served settings resolver repository now pods).2 =
      ((profiler.offersFor resolver repository pods).flatMap fun pair =>
        taken (profiler.lastFolded? pair.1) pair.2).length := by
  rw [served, serveAll_count offersFor_nodup, Nat.zero_add]
  refine congrArg (fun folded => (List.flatMap folded _).length) ?_
  funext pair
  exact congrArg (taken · pair.2) (funext folded_recipient)

/-- A cycle folds nothing exactly if all it offers is settled. -/
theorem served_count_eq_zero_iff :
    (profiler.served settings resolver repository now pods).2 = 0 ↔
      profiler.Settled resolver repository pods := by
  rw [count_served, List.length_eq_zero_iff, List.flatMap_eq_nil_iff,
    Prod.forall]
  simp only [taken_eq_nil_iff]
  exact Iff.rfl

variable (settings resolver repository now pods profiler) in
theorem find?_advance (name : String) :
    (profiler.advance settings resolver repository now pods).entries.find?
        name =
      (((profiler.served settings resolver repository now pods).1.find?
        name).map fun entry =>
          entry.forgetPods (pods.map Pod.id).contains).filter fun entry =>
        entry.lastSeen.within now
          (Instant.effectivePeriod settings.grace) := by
  simp [advance, evict]

theorem find?_served_of_mem
    {name : String} {offered : List (Offer α)}
    (member :
      (name, offered) ∈ profiler.offersFor resolver repository pods) :
    (profiler.served settings resolver repository now pods).1.find? name =
      some (Entry.takeAll profiler.spec.quantiles
        (addressed (decayAll settings profiler.spec profiler.entries) now
          (profiler.refreshes pods) name, 0) offered).1 :=
  serveAll_find?_of_mem offersFor_nodup member

variable (settings resolver repository now pods profiler) in
/-- An entry either takes what is offered to it, or is only decayed. -/
theorem find?_served_cases (name : String) :
    (∃ offered,
      (name, offered) ∈ profiler.offersFor resolver repository pods ∧
        (profiler.served settings resolver repository now pods).1.find?
          name =
            some (Entry.takeAll profiler.spec.quantiles
              (addressed (decayAll settings profiler.spec profiler.entries)
                now (profiler.refreshes pods) name, 0) offered).1) ∨
      (profiler.served settings resolver repository now pods).1.find? name =
        (profiler.entries.find? name).map fun entry =>
          entry.decay (profiler.cycleFactor settings) := by
  by_cases served : name ∈
      (profiler.offersFor resolver repository pods).map (·.1)
  · obtain ⟨⟨_, offered⟩, member, rfl⟩ := List.mem_map.1 served
    exact .inl ⟨offered, member, find?_served_of_mem member⟩
  · refine .inr ?_
    rw [← find?_decayAll]
    exact serveAll_find?_of_not_mem served

/-- A property of estimators that those made for a resource of the spec have,
and that decay and samples keep, is kept by a cycle. -/
theorem every_advance {property : Resource → Estimator α → Prop}
    (created : ∀ resource, profiler.spec.asksFor resource = true →
      property resource
        (Estimator.forResource resource profiler.spec.quantiles))
    (decayed : ∀ resource estimator factor, property resource estimator →
      property resource (estimator.decay factor))
    (ingested : ∀ resource estimator sample, property resource estimator →
      property resource (estimator.ingest sample))
    (every : profiler.Every property) :
    (profiler.advance settings resolver repository now pods).Every
      property := by
  intro name resource estimator found
  obtain ⟨entry, known, held⟩ := Option.bind_eq_some_iff.1 found
  rw [find?_advance, Option.filter_eq_some_iff,
    Option.map_eq_some_iff] at known
  obtain ⟨⟨entry, known, rfl⟩, -⟩ := known
  rcases find?_served_cases settings resolver repository now pods profiler
    name with ⟨offered, member, served⟩ | kept
  · rw [served] at known
    obtain rfl := Option.some.inj known
    refine Entry.every_takeAll ?_ ingested ?_ resource estimator held
    · intro offer taken
      obtain ⟨source, asked, -⟩ := offer_origin member taken
      exact created _ (Spec.asksFor_iff.2 ⟨source, asked⟩)
    · intro resource estimator found
      rw [estimator_recipient] at found
      obtain ⟨earlier, before, rfl⟩ := Option.map_eq_some_iff.1 found
      exact decayed _ _ _ (every _ _ _ before)
  · rw [kept] at known
    obtain ⟨before, listed, rfl⟩ := Option.map_eq_some_iff.1 known
    obtain ⟨earlier, kept, rfl⟩ := Option.map_eq_some_iff.1 <|
      (SortedMap.find?_mapValues _ _ _).symm.trans held
    refine decayed _ _ _ (every name resource earlier ?_)
    rw [estimator?, listed]
    exact kept

/-- The entries that a cycle refreshes outlive it. -/
theorem find?_advance_of_mem
    {name : String} {offered : List (Offer α)}
    (member :
      (name, offered) ∈ profiler.offersFor resolver repository pods)
    (seen : profiler.refreshes pods = true) :
    (profiler.advance settings resolver repository now pods).entries.find?
        name =
      some ((Entry.takeAll profiler.spec.quantiles
        (addressed (decayAll settings profiler.spec profiler.entries) now
          true name, 0) offered).1.forgetPods
            (pods.map Pod.id).contains) := by
  rw [find?_advance, find?_served_of_mem member, seen]
  have kept : (addressed (decayAll settings profiler.spec
      profiler.entries) now true name).lastSeen.within now
        (Instant.effectivePeriod settings.grace) = true :=
    Instant.within_self now _
  simp [Option.filter, Entry.forgetPods, kept]

/-- Pods for which something is offered are resolved. -/
theorem resolved_of_offer
    {name : String} {offered : List (Offer α)} {offer : Offer α}
    (served :
      (name, offered) ∈ profiler.offersFor resolver repository pods)
    (member : offer ∈ offered) :
    offer.observed.pod ∈ pods.map Pod.id ∧
      profiler.refreshes pods = true := by
  obtain ⟨-, -, resolved, -⟩ := offer_origin served member
  refine ⟨resolved, ?_⟩
  have inhabited : pods.isEmpty = false := by
    cases pods with
    | nil => cases resolved
    | cons => rfl
  simp only [refreshes, inhabited]
  cases profiler.key.level <;> rfl

theorem reportable_publish :
    profiler.publish.Reportable ↔ profiler.Reportable := Iff.rfl

theorem settled_publish :
    profiler.publish.Settled resolver repository pods ↔
      profiler.Settled resolver repository pods := Iff.rfl

theorem Settled.coherent
    (settled : profiler.Settled resolver repository pods) :
    profiler.Coherent resolver repository pods := by
  intro name offered served
  exact concordant_of_times (settled name offered served)

variable (settings now) in
/-- What is offered again after a cycle is settled exactly if the cycle
never offered two times for one slot. -/
theorem settled_advance_iff :
    (profiler.advance settings resolver repository now pods).Settled
        resolver repository pods ↔
      profiler.Coherent resolver repository pods := by
  have last : ∀ name offered,
      (name, offered) ∈ profiler.offersFor resolver repository pods →
      ∀ offer ∈ offered,
        (profiler.advance settings resolver repository now pods).lastFolded?
            name offer.observed =
          (Entry.takeAll profiler.spec.quantiles
            (addressed (decayAll settings profiler.spec profiler.entries)
              now true name, 0) offered).1.folded.find? offer.observed := by
    intro name offered served offer member
    obtain ⟨resolved, seen⟩ := resolved_of_offer served member
    have listed : (pods.map Pod.id).contains offer.observed.pod = true :=
      List.contains_iff_mem.2 resolved
    rw [lastFolded?, find?_advance_of_mem served seen, Option.bind_some]
    simp only [Entry.forgetPods, SortedMap.find?_filter, listed]
    cases (Entry.takeAll _ _ offered).1.folded.find? offer.observed <;> rfl
  constructor
  · intro settled name offered served
    have taken : (Entry.takeAll profiler.spec.quantiles
        (addressed (decayAll settings profiler.spec profiler.entries) now
          true name, 0) offered).1.Settled offered := by
      intro offer member
      rw [← last name offered served offer member]
      exact settled name offered served offer member
    exact taken.concordant
  · intro coherent name offered served offer member
    rw [last name offered served offer member]
    exact Entry.settled_takeAll (coherent name offered served) offer member

variable (settings now) in
/-- An entry that a settled cycle serves, if at all, without refreshing it. -/
private theorem find?_served_of_settled
    (settled : profiler.Settled resolver repository pods)
    {name : String}
    (unseen : ∀ offered,
      (name, offered) ∈ profiler.offersFor resolver repository pods →
        profiler.refreshes pods = false) :
    (profiler.served settings resolver repository now pods).1.find? name =
        some (recipient settings profiler now false name) ∨
      (profiler.served settings resolver repository now pods).1.find? name =
        (profiler.entries.find? name).map fun entry =>
          entry.decay (profiler.cycleFactor settings) := by
  rcases find?_served_cases settings resolver repository now pods profiler
    name with ⟨offered, member, served⟩ | kept
  · refine .inl ?_
    rw [served, unseen offered member,
      Entry.takeAll_of_settled
        (settled_recipient_iff.2 (settled _ offered member))]
  · exact .inr kept

variable (settings now) in
/-- A settled cycle keeps every estimator but for its weights, and drops the
estimators of overdue entries only. -/
theorem estimator?_advance_of_settled
    (settled : profiler.Settled resolver repository pods)
    (name : String) (resource : Resource) :
    let next := profiler.advance settings resolver repository now pods
    next.estimator? name resource =
        (profiler.estimator? name resource).map (fun estimator =>
          estimator.decay (profiler.cycleFactor settings)) ∨
      next.estimator? name resource = none ∧
        profiler.Overdue settings now name := by
  intro next
  by_cases seen : ∃ offered,
      (name, offered) ∈ profiler.offersFor resolver repository pods ∧
        profiler.refreshes pods = true
  · obtain ⟨offered, member, refreshed⟩ := seen
    refine .inl ?_
    rw [estimator?, find?_advance_of_mem member refreshed,
      Entry.takeAll_of_settled
        (settled_recipient_iff.2 (settled name offered member))]
    exact estimator_recipient resource
  · have unseen : ∀ offered,
        (name, offered) ∈ profiler.offersFor resolver repository pods →
          profiler.refreshes pods = false := by
      intro offered member
      simpa using fun refreshed => seen ⟨offered, member, refreshed⟩
    have lookup :=
      find?_advance settings resolver repository now pods profiler name
    cases known : profiler.entries.find? name with
    | none =>
        refine .inl ?_
        have none : profiler.estimator? name resource = none := by
          rw [estimator?, known]
          rfl
        rw [none]
        rcases find?_served_of_settled settings now settled unseen with
          served | served
        · rw [estimator?, lookup, served, Option.map_some,
            Option.filter_some]
          split
          · exact (estimator_recipient resource).trans (by rw [none])
          · rfl
        · rw [estimator?, lookup, served, known]
          rfl
    | some entry =>
        have served : (profiler.served settings resolver repository now
            pods).1.find? name =
            some (entry.decay (profiler.cycleFactor settings)) := by
          rcases find?_served_of_settled settings now settled unseen with
            served | served
          · rw [served, recipient, addressed, find?_decayAll, known]
            rfl
          · rw [served, known]
            rfl
        rw [estimator?, lookup, served, Option.map_some, Option.filter_some]
        split
        · refine .inl ?_
          simp [estimator?, known, Entry.forgetPods, Entry.decay]
        next overdue =>
          exact .inr ⟨rfl, entry, known, Bool.eq_false_iff.2 overdue⟩

end

end Profiler

end UsageForecast
