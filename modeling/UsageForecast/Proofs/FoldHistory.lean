import UsageForecast.Proofs.Following
import UsageForecast.Proofs.Readings

/-!
# The history of folded samples

A profiler records for each slot of an entry the time of the sample that it
has folded last.  The record follows the history of the profiler: it lasts as
long as the entry does, the pod stays resolved and the spec asks for the
resource.  What a cycle folds is decided by this history and by what the
caches offer.
-/

namespace UsageForecast

namespace Profiler

variable {σ α : Type} [Analytic α]

/-- What a cycle offers to the entry of a name. -/
def offersTo (resolver : Resolver) (repository : Repository α)
    (pods : List Pod) (profiler : Profiler α) (name : String) :
    List (Offer α) :=
  ((profiler.offersFor resolver repository pods).lookup name).getD []

section

variable {settings : Settings α} {resolver : Resolver}
  {repository : Repository α} {now : Instant} {pods : List Pod}
  {profiler : Profiler α} {name : String}

theorem offersTo_of_mem {offered : List (Offer α)}
    (member :
      (name, offered) ∈ profiler.offersFor resolver repository pods) :
    profiler.offersTo resolver repository pods name = offered := by
  obtain ⟨before, after, split⟩ := List.append_of_mem member
  have distinct : ((profiler.offersFor resolver repository pods).map
      (·.1)).Nodup := offersFor_nodup
  rw [split, List.map_append, List.map_cons] at distinct
  have found : (profiler.offersFor resolver repository pods).lookup name =
      some offered := by
    refine List.lookup_eq_some_iff.2 ⟨before, after, split, ?_⟩
    intro pair earlier
    have different : pair.1 ≠ name := fun same =>
      (List.nodup_append.1 distinct).2.2 pair.1
        (List.mem_map.2 ⟨pair, earlier, rfl⟩) name List.mem_cons_self same
    simpa using Ne.symm different
  rw [offersTo, found, Option.getD_some]

theorem offersTo_of_not_mem
    (absent : name ∉
      (profiler.offersFor resolver repository pods).map (·.1)) :
    profiler.offersTo resolver repository pods name = [] := by
  have missing : (profiler.offersFor resolver repository pods).lookup name =
      none := by
    refine List.lookup_eq_none_iff.2 fun pair member => ?_
    have different : pair.1 ≠ name := fun same =>
      absent (List.mem_map.2 ⟨pair, member, same⟩)
    simpa using Ne.symm different
  rw [offersTo, missing, Option.getD_none]

/-- Every offer to an entry is one of those that a cycle makes. -/
theorem mem_offersTo {offer : Offer α}
    (member : offer ∈ profiler.offersTo resolver repository pods name) :
    ∃ offered,
      (name, offered) ∈ profiler.offersFor resolver repository pods ∧
        offer ∈ offered := by
  by_cases listed : name ∈
      (profiler.offersFor resolver repository pods).map (·.1)
  · obtain ⟨⟨_, offered⟩, served, rfl⟩ := List.mem_map.1 listed
    rw [offersTo_of_mem served] at member
    exact ⟨offered, served, member⟩
  · rw [offersTo_of_not_mem listed] at member
    cases member

/-- A cycle that is no observation offers nothing. -/
theorem offersTo_of_unseen (unseen : profiler.refreshes pods = false) :
    profiler.offersTo resolver repository pods name = [] := by
  refine List.eq_nil_iff_forall_not_mem.2 fun offer member => ?_
  obtain ⟨offered, served, taken⟩ := mem_offersTo member
  rw [(resolved_of_offer served taken).2] at unseen
  cases unseen

/-- An entry takes what is offered to it, if anything is, and is decayed
otherwise. -/
theorem find?_served :
    (profiler.served settings resolver repository now pods).1.find? name =
      if name ∈ (profiler.offersFor resolver repository pods).map (·.1) then
        some (Entry.takeAll profiler.spec.quantiles
          (recipient settings profiler now (profiler.refreshes pods) name,
            0) (profiler.offersTo resolver repository pods name)).1
      else
        (profiler.entries.find? name).map fun entry =>
          entry.decay (profiler.cycleFactor settings) := by
  split
  next listed =>
    obtain ⟨⟨_, offered⟩, member, rfl⟩ := List.mem_map.1 listed
    rw [find?_served_of_mem member, offersTo_of_mem member]
  next absent =>
    rw [← find?_decayAll]
    exact serveAll_find?_of_not_mem absent

private theorem times_recipient {seen : Bool} :
    (recipient settings profiler now seen name).folded.find? =
      profiler.lastFolded? name :=
  funext folded_recipient

/-- What a served entry records and holds. -/
private theorem served_entry {entry : Entry α}
    (served : (profiler.served settings resolver repository now
      pods).1.find? name = some entry) :
    let folded := taken (profiler.lastFolded? name)
      (profiler.offersTo resolver repository pods name)
    (∀ observed, entry.folded.find? observed =
      (lastTime? folded observed).or
        (profiler.lastFolded? name observed)) ∧
    ∀ resource, entry.estimators.find? resource =
      Estimator.ingestAll profiler.spec.quantiles resource
        ((profiler.estimator? name resource).map fun estimator =>
          estimator.decay (profiler.cycleFactor settings))
        ((samplesFor resource folded).map Prod.snd) := by
  rw [find?_served] at served
  split at served
  next =>
    obtain rfl := Option.some.inj served
    refine ⟨fun observed => ?_, fun resource => ?_⟩
    · rw [Entry.folded_takeAll, times_recipient]
    · rw [Entry.estimator_takeAll, times_recipient, estimator_recipient]
  next absent =>
    obtain ⟨before, known, rfl⟩ := Option.map_eq_some_iff.1 served
    rw [offersTo_of_not_mem absent]
    refine ⟨fun observed => ?_, fun resource => ?_⟩
    · simp [taken, lastTime?, lastFolded?, known, Entry.decay]
    · simp [taken, samplesFor, Estimator.ingestAll, estimator?, known,
        Entry.decay]

/-- A name without a served entry is offered nothing. -/
private theorem served_none
    (missing : (profiler.served settings resolver repository now
      pods).1.find? name = none) :
    profiler.offersTo resolver repository pods name = [] ∧
      profiler.entries.find? name = none := by
  rw [find?_served] at missing
  split at missing
  next => cases missing
  next absent =>
    exact ⟨offersTo_of_not_mem absent, Option.map_eq_none_iff.1 missing⟩

/-- A served entry that is overdue was so before and is offered nothing. -/
private theorem overdue_of_served {entry : Entry α}
    (served : (profiler.served settings resolver repository now
      pods).1.find? name = some entry)
    (late : entry.lastSeen.within now
      (Instant.effectivePeriod settings.grace) = false) :
    profiler.offersTo resolver repository pods name = [] ∧
      profiler.Overdue settings now name := by
  have present : now.within now
      (Instant.effectivePeriod settings.grace) = true :=
    Instant.within_self now _
  rw [find?_served] at served
  split at served
  next =>
    obtain rfl := Option.some.inj served
    rw [Entry.lastSeen_takeAll] at late
    cases seen : profiler.refreshes pods with
    | true =>
        rw [seen] at late
        exact absurd (present.symm.trans late) (by simp)
    | false =>
        refine ⟨offersTo_of_unseen seen, ?_⟩
        rw [seen, recipient, addressed, find?_decayAll] at late
        cases known : profiler.entries.find? name with
        | none =>
            rw [known] at late
            exact absurd (present.symm.trans late) (by simp)
        | some before =>
            rw [known] at late
            exact ⟨before, known, late⟩
  next absent =>
    obtain ⟨before, known, rfl⟩ := Option.map_eq_some_iff.1 served
    exact ⟨offersTo_of_not_mem absent, before, known, late⟩

/-- After a cycle an entry records the samples that the cycle has folded, and
otherwise what it recorded before, of the pods that were resolved. -/
theorem lastFolded?_advance (observed : Observed) :
    let next := profiler.advance settings resolver repository now pods
    next.lastFolded? name observed =
      if observed.pod ∈ pods.map Pod.id ∧ next.entries.contains name then
        (lastTime? (taken (profiler.lastFolded? name)
          (profiler.offersTo resolver repository pods name)) observed).or
            (profiler.lastFolded? name observed)
      else none := by
  intro next
  rw [lastFolded?, SortedMap.contains, find?_advance]
  cases served : (profiler.served settings resolver repository now
      pods).1.find? name with
  | none => simp
  | some entry =>
      rw [Option.map_some, Option.filter_some]
      split
      next =>
        have kept : (entry.forgetPods (pods.map
            Pod.id).contains).folded.find? observed =
            (entry.folded.find? observed).filter fun _ =>
              (pods.map Pod.id).contains observed.pod :=
          SortedMap.find?_filter _ _ _
        rw [Option.bind_some, kept, (served_entry served).1]
        generalize Option.or _ _ = time
        by_cases resolved : observed.pod ∈ pods.map Pod.id
        · have listed := List.contains_iff_mem.2 resolved
          simp only [listed, resolved, Option.isSome_some, and_self, if_true]
          cases time <;> rfl
        · have absent : (pods.map Pod.id).contains observed.pod = false :=
            Bool.eq_false_iff.2 (mt List.contains_iff_mem.1 resolved)
          simp only [absent, resolved, false_and, if_false]
          cases time <;> rfl
      next => simp

/-- An entry that a cycle serves without evicting it has taken the samples
that the cycle has folded. -/
theorem estimator?_of_kept (resource : Resource)
    (kept : (profiler.advance settings resolver repository now
      pods).entries.contains name) :
    (profiler.advance settings resolver repository now pods).estimator? name
        resource =
      Estimator.ingestAll profiler.spec.quantiles resource
        ((profiler.estimator? name resource).map fun estimator =>
          estimator.decay (profiler.cycleFactor settings))
        ((samplesFor resource (taken (profiler.lastFolded? name)
          (profiler.offersTo resolver repository pods name))).map
            Prod.snd) := by
  obtain ⟨entry, found⟩ := SortedMap.contains_iff.1 kept
  rw [estimator?, found, Option.bind_some]
  rw [find?_advance, Option.filter_eq_some_iff,
    Option.map_eq_some_iff] at found
  obtain ⟨⟨entry, served, rfl⟩, -⟩ := found
  exact (served_entry served).2 resource

/-- The estimators of an entry count the samples that the cycle has folded,
if these are finite. -/
theorem counted_of_kept (resource : Resource)
    (kept : (profiler.advance settings resolver repository now
      pods).entries.contains name)
    (finite : ∀ offer ∈ profiler.offersTo resolver repository pods name,
      Scalar.isFinite offer.sample.value = true) :
    Estimator.counted
        ((profiler.advance settings resolver repository now pods).estimator?
          name resource) =
      Estimator.counted (profiler.estimator? name resource) +
        UInt64.ofNat (samplesFor resource (taken (profiler.lastFolded? name)
          (profiler.offersTo resolver repository pods name))).length := by
  have counts : ∀ sample ∈ (samplesFor resource (taken
      (profiler.lastFolded? name) (profiler.offersTo resolver repository pods
        name))).map Prod.snd, Scalar.isFinite sample.value = true := by
    intro sample folded
    obtain ⟨⟨pod, _⟩, listed, rfl⟩ := List.mem_map.1 folded
    exact finite _ (taken_subset (mem_samplesFor_iff.1 listed))
  rw [estimator?_of_kept resource kept, Estimator.counted_ingestAll,
    List.countP_eq_length.2 counts, List.length_map,
    Estimator.counted_decay]

/-- Only an entry for which nothing was offered may be evicted. -/
theorem kept_or_overdue (name : String) :
    let next := profiler.advance settings resolver repository now pods
    next.entries.contains name ∨
      profiler.offersTo resolver repository pods name = [] ∧
        (profiler.entries.find? name = none ∨
          profiler.Overdue settings now name) := by
  intro next
  cases served : (profiler.served settings resolver repository now
      pods).1.find? name with
  | none =>
      obtain ⟨nothing, unknown⟩ := served_none served
      exact .inr ⟨nothing, .inl unknown⟩
  | some entry =>
      have lookup := find?_advance settings resolver repository now pods
        profiler name
      rw [served, Option.map_some, Option.filter_some] at lookup
      split at lookup
      next => exact .inl (SortedMap.contains_iff.2 ⟨_, lookup⟩)
      next overdue =>
        have late : entry.lastSeen.within now
            (Instant.effectivePeriod settings.grace) = false :=
          Bool.eq_false_iff.2 overdue
        obtain ⟨nothing, before⟩ := overdue_of_served served late
        exact .inr ⟨nothing, .inr before⟩

/-- An entry that is offered nothing keeps its estimators but for their
weights, unless it is evicted. -/
theorem estimator?_of_idle
    (nothing : profiler.offersTo resolver repository pods name = [])
    (resource : Resource) :
    let next := profiler.advance settings resolver repository now pods
    next.estimator? name resource =
        (profiler.estimator? name resource).map (fun estimator =>
          estimator.decay (profiler.cycleFactor settings)) ∨
      next.estimator? name resource = none ∧
        profiler.Overdue settings now name := by
  intro next
  by_cases kept : next.entries.contains name
  · refine .inl ?_
    rw [estimator?_of_kept resource kept, nothing]
    rfl
  · have gone : next.estimator? name resource = none := by
      have missing : next.entries.find? name = none := by
        simpa [SortedMap.contains] using kept
      rw [estimator?, missing, Option.bind_none]
    rcases (kept_or_overdue name).resolve_left kept with
      ⟨-, unknown | overdue⟩
    · refine .inl ?_
      rw [gone, estimator?, unknown]
      rfl
    · exact .inr ⟨gone, overdue⟩

/-- The entries after a cycle that has found its pods, whether it was
completed or not. -/
theorem entries_profile [CheckpointStore σ α] {store : σ}
    (resolved : resolver.pods profiler.key.target = .ok pods) :
    (profiler.profile settings resolver repository now
        store).profiler.entries =
      (profiler.advance settings resolver repository now pods).entries := by
  rcases profile_cases settings resolver repository now profiler store with
    ⟨failure, unresolved, -⟩ | ⟨other, found, ended⟩
  · rw [resolved] at unresolved
    cases unresolved
  · obtain rfl : pods = other := by
      rw [resolved] at found
      exact Except.ok.inj found
    rcases ended with ⟨-, published, -⟩ | ⟨-, stopped, -⟩
    · rw [published]
      rfl
    · rw [stopped]

/-- A cycle that finds no pods keeps its profiler. -/
theorem profiler_of_unresolved [CheckpointStore σ α] {store : σ}
    {failure : Failure}
    (unresolved : resolver.pods profiler.key.target = .error failure) :
    (profiler.profile settings resolver repository now store).profiler =
      profiler := by
  rw [profile_of_unresolved settings repository now store unresolved]

end

/-- The times of the samples that a profiler has folded last for the slots of
its entries, as its history tells them.  They are lost with an entry that is
evicted, for pods that a cycle does not resolve, and for resources that a
spec does not ask for. -/
inductive Remembers :
    Profiler α → (String → Observed → Option Instant) → Prop where
  | create (key : ProfileKey) (spec : Spec α) :
      Remembers (create key spec) fun _ _ => none
  | update {profiler : Profiler α} {times} (spec : Spec α) :
      Remembers profiler times →
      Remembers (profiler.update spec) fun name observed =>
        if spec.asksFor observed.resource then times name observed else none
  | restore {profiler restored : Profiler α} {times} {now : Instant}
      {checkpoint : Checkpoint α} :
      Remembers profiler times →
      profiler.restore now checkpoint = .ok restored →
      Remembers restored times
  | skip {σ : Type} [CheckpointStore σ α] {profiler next : Profiler α}
      {times} {settings : Settings α} {resolver : Resolver}
      {repository : Repository α} {now : Instant} {store : σ}
      {failure : Failure} :
      Remembers profiler times →
      resolver.pods profiler.key.target = .error failure →
      (profiler.profile settings resolver repository now store).profiler =
        next →
      Remembers next times
  | cycle {σ : Type} [CheckpointStore σ α] {profiler next : Profiler α}
      {times} {settings : Settings α} {resolver : Resolver}
      {repository : Repository α} {now : Instant} {store : σ}
      {pods : List Pod} :
      Remembers profiler times →
      resolver.pods profiler.key.target = .ok pods →
      (profiler.profile settings resolver repository now store).profiler =
        next →
      Remembers next fun name observed =>
        if observed.pod ∈ pods.map Pod.id ∧ next.entries.contains name then
          (lastTime? (taken (times name)
            (profiler.offersTo resolver repository pods name)) observed).or
              (times name observed)
        else none

theorem lastFolded?_update (profiler : Profiler α) (spec : Spec α)
    (name : String) (observed : Observed) :
    (profiler.update spec).lastFolded? name observed =
      if spec.asksFor observed.resource then
        profiler.lastFolded? name observed
      else none := by
  unfold lastFolded? update follow publish storeSpec
  simp only [SortedMap.find?_mapValues]
  cases profiler.entries.find? name with
  | none => simp
  | some entry =>
      simp only [Option.map_some, Option.bind_some, Entry.relabel,
        Entry.restrict, SortedMap.find?_filter]
      cases entry.folded.find? observed <;>
        cases spec.asksFor observed.resource <;> rfl

/-- The record of a profiler is what its history tells. -/
theorem Remembers.eq {profiler : Profiler α}
    {times : String → Observed → Option Instant}
    (remembers : Remembers profiler times) :
    profiler.lastFolded? = times := by
  induction remembers with
  | create key spec => rfl
  | update spec _ induction =>
      funext name observed
      rw [lastFolded?_update, induction]
  | restore _ succeeded induction =>
      obtain ⟨-, rfl⟩ := restore_eq_ok_iff.1 succeeded
      funext name observed
      rw [← induction]
      exact lastFolded?_takeOver _ _ _ name observed
  | skip _ unresolved ended induction =>
      rw [← ended, profiler_of_unresolved unresolved, induction]
  | cycle _ resolved ended induction =>
      subst ended
      funext name observed
      rw [lastFolded?, entries_profile resolved]
      refine (lastFolded?_advance observed).trans ?_
      rw [induction]

/-- Every profiler has a history. -/
theorem Reachable.remembers {profiler : Profiler α}
    (reachable : Reachable profiler) : ∃ times, Remembers profiler times := by
  induction reachable with
  | create key spec => exact ⟨_, .create key spec⟩
  | update spec _ induction =>
      obtain ⟨times, remembers⟩ := induction
      exact ⟨_, .update spec remembers⟩
  | restore _ succeeded induction =>
      obtain ⟨times, remembers⟩ := induction
      exact ⟨times, .restore remembers succeeded⟩
  | @profile _ _ profiler settings resolver repository now store _
      induction =>
      obtain ⟨times, remembers⟩ := induction
      cases resolved : resolver.pods profiler.key.target with
      | error failure => exact ⟨times, .skip remembers resolved rfl⟩
      | ok pods => exact ⟨_, .cycle remembers resolved rfl⟩

end Profiler

end UsageForecast
