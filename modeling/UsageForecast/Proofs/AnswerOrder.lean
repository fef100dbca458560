import UsageForecast.Proofs.FoldHistory

/-!
# The order of the answers

The pods of an answer are listed in any order, which may differ from answer to
answer.  Each answer lists a pod once, so that in another order the offers for
a slot are the same and come in the same order, one query after another.
Which offers are folded is decided slot by slot: another order folds the same
samples, reports the same failures, and what is settled in one order is settled
in all of them.
-/

namespace UsageForecast

namespace Repository

variable {α : Type} [Scalar α]

theorem reading?_seeded (repository : Repository α) (hashes : Hashes) :
    (repository.seeded hashes).reading? = repository.reading? := rfl

end Repository

namespace Profiler

section

variable {α : Type} {left right : List (Offer α)}

/-- Two lists make the same offers to each slot, in the same order. -/
def SameSlots (left right : List (Offer α)) : Prop :=
  ∀ slot, (left.filter fun offer => offer.observed = slot) =
    right.filter fun offer => offer.observed = slot

theorem SameSlots.perm (same : SameSlots left right) : left.Perm right := by
  classical
  refine List.perm_iff_count.2 fun offer => ?_
  have counted (offers : List (Offer α)) :
      (offers.filter fun other => other.observed = offer.observed).count
        offer = offers.count offer :=
    List.count_filter (by simp)
  rw [← counted left, same, counted right]

/-- Which offers are folded is decided slot by slot. -/
theorem taken_filter {times other : Observed → Option Instant}
    {offers : List (Offer α)} (keep : Observed → Bool)
    (agree : ∀ observed, keep observed = true →
      times observed = other observed) :
    taken times (offers.filter fun offer => keep offer.observed) =
      (taken other offers).filter fun offer => keep offer.observed := by
  induction offers generalizing times other with
  | nil => rfl
  | cons offer offers induction =>
      cases kept : keep offer.observed with
      | true =>
          rw [List.filter_cons, if_pos kept, taken, taken,
            agree offer.observed kept]
          split
          · exact induction agree
          · rw [List.filter_cons, if_pos kept]
            refine congrArg _ (induction fun observed asked => ?_)
            by_cases same : observed = offer.observed
            · rw [same, Function.update_self, Function.update_self]
            · rw [Function.update_of_ne same, Function.update_of_ne same,
                agree observed asked]
      | false =>
          have dropped : ¬ keep offer.observed = true := by simp [kept]
          rw [List.filter_cons, if_neg dropped, taken]
          split
          · exact induction agree
          · rw [List.filter_cons, if_neg dropped]
            refine induction fun observed asked => ?_
            have different : observed ≠ offer.observed := by
              rintro rfl
              exact dropped asked
            rw [Function.update_of_ne different, agree observed asked]

/-- The same offers are folded for each slot. -/
theorem SameSlots.taken (same : SameSlots left right)
    (times : Observed → Option Instant) :
    SameSlots (taken times left) (Profiler.taken times right) := by
  intro slot
  have alone (offers : List (Offer α)) :
      Profiler.taken times (offers.filter fun offer =>
          offer.observed = slot) =
        (Profiler.taken times offers).filter fun offer =>
          offer.observed = slot :=
    taken_filter (fun observed => observed = slot) fun _ _ => rfl
  exact (alone left).symm.trans ((congrArg _ (same slot)).trans (alone right))

theorem SameSlots.samplesFor (same : SameSlots left right)
    (times : Observed → Option Instant) (resource : Resource) :
    (samplesFor resource (Profiler.taken times left)).Perm
      (Profiler.samplesFor resource (Profiler.taken times right)) :=
  ((same.taken times).perm.filter _).map _

/-- The last of some offers for a slot is the last of those for the slot. -/
theorem lastTime?_filter (offers : List (Offer α)) (slot : Observed) :
    lastTime? (offers.filter fun offer => offer.observed = slot) slot =
      lastTime? offers slot := by
  induction offers with
  | nil => rfl
  | cons offer offers induction =>
      by_cases same : offer.observed = slot
      · rw [List.filter_cons_of_pos (by simpa using same), lastTime?,
          induction, lastTime?]
      · rw [List.filter_cons_of_neg (by simpa using same), induction,
          lastTime?, if_neg same, Option.or_none]

theorem SameSlots.lastTime? (same : SameSlots left right)
    (slot : Observed) :
    lastTime? left slot = Profiler.lastTime? right slot := by
  rw [← lastTime?_filter, same, lastTime?_filter]

theorem SameSlots.flatMap {ι : Type} {members : List ι}
    {offered other : ι → List (Offer α)}
    (each : ∀ member, SameSlots (offered member) (other member)) :
    SameSlots (members.flatMap offered) (members.flatMap other) := by
  intro slot
  rw [List.filter_flatMap, List.filter_flatMap]
  exact congrArg members.flatMap (funext fun member => each member slot)

/-- Offers that are made pod by pod, each to a slot of its pod, are the same
for each slot if the pods come in another order. -/
theorem sameSlots_of_perm {pods other : List PodName}
    {offered : PodName → Option (Offer α)}
    (own : ∀ pod, ∀ offer ∈ offered pod, offer.observed.pod = pod)
    (perm : pods.Perm other) :
    SameSlots (pods.filterMap offered) (other.filterMap offered) := by
  intro slot
  have alone (pods : List PodName) :
      ((pods.filterMap offered).filter fun offer =>
          offer.observed = slot) =
        (pods.filter (· = slot.pod)).filterMap fun pod =>
          (offered pod).filter fun offer => offer.observed = slot := by
    rw [List.filter_filterMap, List.filterMap_filter]
    refine List.filterMap_congr fun pod _ => ?_
    by_cases same : pod = slot.pod
    · simp [same]
    · cases made : offered pod with
      | none => simp [same]
      | some offer =>
          have different : offer.observed ≠ slot := by
            rintro rfl
            exact same (own pod offer made).symm
          simp [same, different]
  rw [alone, alone, List.filter_eq, List.filter_eq, perm.count_eq]

end

variable {α : Type} [Analytic α] {resolver : Resolver}
  {repository : Repository α} {pods : List Pod} {profiler : Profiler α}

theorem sameSlots_queryOffers (repository : Repository α) (hashes : Hashes)
    (key : ProfileKey) (pods : List PodName) (container : String)
    (query : Source × Resource) :
    SameSlots
      (queryOffers (repository.seeded hashes) key pods container query)
      (queryOffers repository key pods container query) := by
  rw [queryOffers_eq, queryOffers_eq, Repository.reading?_seeded]
  refine sameSlots_of_perm ?_
    ((perm_listing _ pods).trans (perm_listing _ pods).symm)
  intro pod offer made
  obtain ⟨sample, -, rfl⟩ := Option.map_eq_some_iff.1 made
  rfl

variable (resolver repository pods profiler) in
private theorem offersFor_seeded (hashes : Hashes) :
    List.Forall₂
      (fun seeded own => seeded.1 = own.1 ∧ SameSlots seeded.2 own.2)
      (profiler.offersFor resolver (repository.seeded hashes) pods)
      (profiler.offersFor resolver repository pods) := by
  unfold offersFor offers
  cases profiler.key.level with
  | container =>
      refine List.forall₂_map_left_iff.2 (List.forall₂_map_right_iff.2 ?_)
      refine List.forall₂_same.2 fun container _ => ⟨rfl, ?_⟩
      exact SameSlots.flatMap
        (sameSlots_queryOffers repository hashes profiler.key _ container)
  | pod => exact .cons ⟨rfl, fun _ => rfl⟩ .nil

variable (resolver repository pods profiler) in
/-- As many samples are folded. -/
theorem count_served_seeded (settings : Settings α) (now : Instant)
    (hashes : Hashes) :
    (profiler.served settings resolver (repository.seeded hashes) now
        pods).2 =
      (profiler.served settings resolver repository now pods).2 := by
  rw [count_served, count_served]
  have same := offersFor_seeded resolver repository pods profiler hashes
  generalize profiler.offersFor resolver _ pods = seeded at same ⊢
  generalize profiler.offersFor resolver repository pods = own at same ⊢
  induction same with
  | nil => rfl
  | cons head _ induction =>
      rw [List.flatMap_cons, List.flatMap_cons, List.length_append,
        List.length_append, induction, head.1,
        (head.2.taken _).perm.length_eq]

/-- Two tallies have counted the same but for samples. -/
private structure SameFaults (left right : Tally) : Prop where
  malformed : left.malformed = right.malformed
  failures : left.failures = right.failures

private theorem sameFaults_foldSamples {quantiles : List (Quantile α)}
    {resource : Resource} (samples : List (PodName × Sample α))
    (entry : Entry α) (tally : Tally) :
    SameFaults (foldSamples quantiles resource samples entry tally).2
      tally := by
  induction samples generalizing entry tally with
  | nil => exact ⟨rfl, rfl⟩
  | cons sample samples induction =>
      have step (folded : Bool) :
          SameFaults (tally.addSample folded) tally := by
        cases folded <;> exact ⟨rfl, rfl⟩
      obtain ⟨malformed, failures⟩ := induction _ (tally.addSample _)
      exact ⟨malformed.trans (step _).malformed,
        failures.trans (step _).failures⟩

private theorem sameFaults_observeContainer {hashes : Hashes}
    {key : ProfileKey} {quantiles : List (Quantile α)} {pods : List PodName}
    {container : String} (query : Source × Resource)
    {left right : Entry α × Tally} (same : SameFaults left.2 right.2) :
    SameFaults
      (observeContainer (repository.seeded hashes) key quantiles pods
        container left query).2
      (observeContainer repository key quantiles pods container right
        query).2 := by
  have asked : (repository.seeded hashes).usage query.1 query.2 container
      pods = repository.usage query.1 query.2 container pods := rfl
  simp only [observeContainer, asked]
  cases repository.usage query.1 query.2 container pods with
  | error failure =>
      exact ⟨same.malformed, congrArg (· ++ [_]) same.failures⟩
  | ok answer =>
      obtain ⟨malformed, failures⟩ := sameFaults_foldSamples _ left.1
        (left.2.addMalformed answer.malformed)
      obtain ⟨counted, reported⟩ := sameFaults_foldSamples _ right.1
        (right.2.addMalformed answer.malformed)
      have added := congrArg (· + answer.malformed) same.malformed
      exact ⟨malformed.trans (added.trans counted.symm),
        failures.trans (same.failures.trans reported.symm)⟩

variable (repository pods profiler) in
private theorem sameFaults_observe (hashes : Hashes) (now : Instant)
    (containers : List String) (entries : SortedMap String (Entry α)) :
    SameFaults
      (profiler.observe (repository.seeded hashes) now containers pods
        entries).2
      (profiler.observe repository now containers pods entries).2 := by
  unfold observe
  cases profiler.key.level with
  | pod => exact ⟨rfl, rfl⟩
  | container =>
      refine List.foldl_rel (r := fun left right => SameFaults
        (Prod.snd left) (Prod.snd right)) ⟨rfl, rfl⟩ ?_
      intro container _ left right same
      refine List.foldl_rel (r := fun left right => SameFaults
        (Prod.snd left) (Prod.snd right)) same ?_
      exact fun query _ _ _ => sameFaults_observeContainer query

/-- The order has no effect on what a cycle counts. -/
theorem tally_seeded (settings : Settings α) (now : Instant)
    (hashes : Hashes) :
    profiler.tally settings resolver (repository.seeded hashes) now pods =
      profiler.tally settings resolver repository now pods := by
  have samples :
      (profiler.tally settings resolver (repository.seeded hashes) now
        pods).samples =
      (profiler.tally settings resolver repository now pods).samples := by
    rw [samples_tally, samples_tally, count_served_seeded]
  obtain ⟨malformed, failures⟩ := sameFaults_observe repository pods profiler
    hashes now (containerNames resolver profiler.key.target pods)
      (decayAll settings profiler.spec profiler.entries)
  exact (congr (congr (congrArg Tally.mk samples) malformed) failures :)

/-- The same entries are served. -/
theorem names_offersFor_seeded (hashes : Hashes) :
    (profiler.offersFor resolver (repository.seeded hashes) pods).map (·.1) =
      (profiler.offersFor resolver repository pods).map (·.1) := by
  have same := offersFor_seeded resolver repository pods profiler hashes
  generalize profiler.offersFor resolver _ pods = seeded at same ⊢
  generalize profiler.offersFor resolver repository pods = own at same ⊢
  induction same with
  | nil => rfl
  | cons head _ induction =>
      rw [List.map_cons, List.map_cons, head.1, induction]

variable (resolver repository pods profiler) in
/-- Another order makes the same offers to each slot of each entry. -/
theorem sameSlots_offersTo (hashes : Hashes) (name : String) :
    SameSlots
      (profiler.offersTo resolver (repository.seeded hashes) pods name)
      (profiler.offersTo resolver repository pods name) := by
  unfold offersTo
  have same := offersFor_seeded resolver repository pods profiler hashes
  generalize profiler.offersFor resolver _ pods = seeded at same ⊢
  generalize profiler.offersFor resolver repository pods = own at same ⊢
  induction same with
  | nil => exact fun _ => rfl
  | @cons first second _ _ head _ induction =>
      obtain ⟨entry, offered⟩ := first
      obtain ⟨other, offers⟩ := second
      obtain ⟨named, slots⟩ := head
      obtain rfl : entry = other := named
      rw [List.lookup_cons, List.lookup_cons]
      cases name == entry with
      | true => exact slots
      | false => exact induction

/-- What depends on the offers slot by slot does not depend on their order. -/
theorem forall_offersFor_seeded {property : String → List (Offer α) → Prop}
    (kept : ∀ name left right, SameSlots left right →
      property name left → property name right) (hashes : Hashes) :
    (∀ name offered, (name, offered) ∈
        profiler.offersFor resolver (repository.seeded hashes) pods →
          property name offered) ↔
      ∀ name offered,
        (name, offered) ∈ profiler.offersFor resolver repository pods →
          property name offered := by
  have carried (repository : Repository α) (hashes : Hashes)
      (all : ∀ name offered,
        (name, offered) ∈ profiler.offersFor resolver repository pods →
          property name offered) (name : String) (offered : List (Offer α))
      (served : (name, offered) ∈
        profiler.offersFor resolver (repository.seeded hashes) pods) :
      property name offered := by
    have listed : name ∈
        (profiler.offersFor resolver repository pods).map (·.1) := by
      rw [← names_offersFor_seeded hashes]
      exact List.mem_map_of_mem served
    obtain ⟨⟨found, other⟩, member, same⟩ := List.mem_map.1 listed
    obtain rfl : name = found := same.symm
    have slots := sameSlots_offersTo resolver repository pods profiler hashes
      name
    rw [offersTo_of_mem served, offersTo_of_mem member] at slots
    exact kept name other offered (fun slot => (slots slot).symm)
      (all name other member)
  exact ⟨carried (repository.seeded hashes) repository.hashes,
    carried repository hashes⟩

theorem settled_seeded (hashes : Hashes) :
    profiler.Settled resolver (repository.seeded hashes) pods ↔
      profiler.Settled resolver repository pods := by
  refine forall_offersFor_seeded ?_ hashes
  intro name left right same settled offer member
  exact settled offer (same.perm.mem_iff.2 member)

/-- Whether slots are offered at one time only does not depend on the order. -/
theorem coherent_seeded (hashes : Hashes) :
    profiler.Coherent resolver (repository.seeded hashes) pods ↔
      profiler.Coherent resolver repository pods := by
  refine forall_offersFor_seeded ?_ hashes
  intro name left right same concordant first firstMember second
    secondMember
  exact concordant first (same.perm.mem_iff.2 firstMember) second
    (same.perm.mem_iff.2 secondMember)

section

variable {settings : Settings α} {now : Instant}

/-- The same entries outlive a cycle. -/
theorem contains_advance_seeded (hashes : Hashes) (name : String) :
    (profiler.advance settings resolver (repository.seeded hashes) now
        pods).entries.contains name =
      (profiler.advance settings resolver repository now
        pods).entries.contains name := by
  rw [SortedMap.contains, SortedMap.contains, find?_advance, find?_advance,
    find?_served, find?_served, names_offersFor_seeded]
  split
  · simp only [Option.map_some, Option.filter_some, Entry.forgetPods,
      Entry.lastSeen_takeAll]
    split <;> rfl
  · rfl

variable (settings resolver repository now pods profiler) in
/-- The order of the answers decides no more about an estimator than the order
in which its new samples are folded. -/
theorem estimator?_advance_seeded (name : String) (resource : Resource) :
    ∃ known, ∃ samples : Hashes → List (Sample α),
      (∀ hashes others, (samples hashes).Perm (samples others)) ∧
      ((∀ hashes, samples hashes = []) ∨
        known = (profiler.estimator? name resource).map fun estimator =>
          estimator.decay (profiler.cycleFactor settings)) ∧
      ∀ hashes,
        (profiler.advance settings resolver (repository.seeded hashes) now
            pods).estimator? name resource =
          Estimator.ingestAll profiler.spec.quantiles resource known
            (samples hashes) := by
  by_cases kept : (profiler.advance settings resolver repository now
      pods).entries.contains name
  · refine ⟨_, fun hashes => (samplesFor resource
      (taken (profiler.lastFolded? name) (profiler.offersTo resolver
        (repository.seeded hashes) pods name))).map Prod.snd,
      fun hashes others => ?_, .inr rfl, fun hashes => ?_⟩
    · have own (hashes : Hashes) := (sameSlots_offersTo resolver repository
        pods profiler hashes name).samplesFor (profiler.lastFolded? name)
          resource
      exact ((own hashes).trans (own others).symm).map Prod.snd
    · exact estimator?_of_kept resource
        ((contains_advance_seeded hashes name).trans kept)
  · refine ⟨none, fun _ => [], fun _ _ => .refl _, .inl fun _ => rfl,
      fun hashes => ?_⟩
    have absent := mt (contains_advance_seeded hashes name).symm.trans kept
    have missing : (profiler.advance settings resolver
        (repository.seeded hashes) now pods).entries.find? name = none := by
      simpa [SortedMap.contains] using absent
    rw [estimator?, missing]
    rfl

end

end Profiler

end UsageForecast
