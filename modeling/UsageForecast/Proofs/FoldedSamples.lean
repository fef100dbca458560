import UsageForecast.Proofs.Offers

/-!
# The samples that are folded

Which of its offers an entry folds depends only on the times that it has
recorded for their slots: an offer is folded unless its time is the one that
was folded last for its slot.  The folded offers decide all that an entry
becomes, resource by resource, and slots do not influence one another.
-/

namespace UsageForecast

variable {α : Type}

namespace Estimator

variable [Analytic α]

/-- Fold samples into an estimator, which is made by the first of them if
there is none. -/
def ingestAll (quantiles : List (Quantile α)) (resource : Resource)
    (known : Option (Estimator α)) (samples : List (Sample α)) :
    Option (Estimator α) :=
  samples.foldl
    (fun known sample =>
      some ((known.getD (forResource resource quantiles)).ingest sample))
    known

/-- How many samples were folded into an estimator that may not exist. -/
def counted (known : Option (Estimator α)) : UInt64 :=
  (known.map count).getD 0

theorem counted_decay (factor : α) {known : Option (Estimator α)} :
    counted (known.map fun estimator => estimator.decay factor) =
      counted known := by
  cases known <;> rfl

/-- Values that are not finite are not counted. -/
theorem counted_ingestAll {quantiles : List (Quantile α)}
    {resource : Resource} {known : Option (Estimator α)}
    {samples : List (Sample α)} :
    counted (ingestAll quantiles resource known samples) =
      counted known + UInt64.ofNat
        (samples.countP fun sample => Scalar.isFinite sample.value) := by
  induction samples generalizing known with
  | nil => simp [ingestAll]
  | cons sample samples induction =>
      have step : counted (some ((known.getD
          (forResource resource quantiles)).ingest sample)) =
          counted known + if Scalar.isFinite sample.value then 1 else 0 := by
        cases known <;> cases finite : Scalar.isFinite sample.value <;>
          simp [counted, ingest, finite, forResource, empty]
      rw [ingestAll, List.foldl_cons]
      refine induction.trans ?_
      rw [step, List.countP_cons, Nat.add_comm (samples.countP _),
        UInt64.ofNat_add, UInt64.add_assoc]
      split <;> rfl

end Estimator

namespace Profiler

/-- The offers that are folded by an entry that has recorded some times. -/
def taken (times : Observed → Option Instant) :
    List (Offer α) → List (Offer α)
  | [] => []
  | offer :: offers =>
      if times offer.observed = some offer.sample.timestamp then
        taken times offers
      else
        offer :: taken (Function.update times offer.observed
          (some offer.sample.timestamp)) offers

/-- The time of the last of some offers for a slot. -/
def lastTime? (offers : List (Offer α)) (observed : Observed) :
    Option Instant :=
  match offers with
  | [] => none
  | offer :: offers =>
      (lastTime? offers observed).or <|
        if offer.observed = observed then some offer.sample.timestamp
        else none

/-- The samples of a resource among some offers, by pod. -/
def samplesFor (resource : Resource) (offers : List (Offer α)) :
    List (PodName × Sample α) :=
  (offers.filter fun offer => offer.observed.resource = resource).map
    fun offer => (offer.observed.pod, offer.sample)

section

variable {times : Observed → Option Instant} {offers : List (Offer α)}
  {offer : Offer α} {resource : Resource}

theorem samplesFor_cons :
    samplesFor resource (offer :: offers) =
      if offer.observed.resource = resource then
        (offer.observed.pod, offer.sample) :: samplesFor resource offers
      else samplesFor resource offers := by
  unfold samplesFor
  by_cases same : offer.observed.resource = resource
  · simp [same]
  · simp [same]

theorem mem_samplesFor_iff {pod : PodName} {sample : Sample α} :
    (pod, sample) ∈ samplesFor resource offers ↔
      ⟨⟨pod, resource⟩, sample⟩ ∈ offers := by
  simp only [samplesFor, List.mem_map, List.mem_filter, decide_eq_true_eq,
    Prod.mk.injEq]
  constructor
  · rintro ⟨⟨⟨_, _⟩, _⟩, ⟨member, rfl⟩, rfl, rfl⟩
    exact member
  · intro member
    exact ⟨_, ⟨member, rfl⟩, rfl, rfl⟩

theorem taken_sublist : (taken times offers).Sublist offers := by
  induction offers generalizing times with
  | nil => exact .slnil
  | cons offer offers induction =>
      unfold taken
      split
      · exact induction.cons offer
      · exact induction.cons_cons offer

theorem taken_subset : taken times offers ⊆ offers := taken_sublist.subset

theorem length_samplesFor_taken_le :
    (samplesFor resource (taken times offers)).length ≤ offers.length := by
  rw [samplesFor, List.length_map]
  exact (List.length_filter_le _ _).trans taken_sublist.length_le

theorem taken_eq_nil_iff :
    taken times offers = [] ↔
      ∀ offer ∈ offers,
        times offer.observed = some offer.sample.timestamp := by
  induction offers with
  | nil => simp [taken]
  | cons offer offers induction =>
      rw [taken, List.forall_mem_cons]
      split
      next settled => rw [induction, and_iff_right settled]
      next unsettled => simp [unsettled]

-- The induction needs the times of all slots; an offer for another slot than
-- the first one finds the time that it would have found before.
/-- Offers that agree on their slots are folded unless they are settled. -/
theorem mem_taken_iff
    (agree : ∀ left ∈ offers, ∀ right ∈ offers,
      left.observed = right.observed → left = right) :
    offer ∈ taken times offers ↔
      offer ∈ offers ∧
        times offer.observed ≠ some offer.sample.timestamp := by
  induction offers generalizing times with
  | nil => simp [taken]
  | cons first offers induction =>
      have rest : ∀ left ∈ offers, ∀ right ∈ offers,
          left.observed = right.observed → left = right :=
        fun left leftMember right rightMember =>
          agree left (List.mem_cons_of_mem _ leftMember) right
            (List.mem_cons_of_mem _ rightMember)
      unfold taken
      split
      next settled =>
        rw [induction rest, List.mem_cons]
        constructor
        · rintro ⟨member, unsettled⟩
          exact ⟨.inr member, unsettled⟩
        · rintro ⟨rfl | member, unsettled⟩
          · exact absurd settled unsettled
          · exact ⟨member, unsettled⟩
      next unsettled =>
        rw [List.mem_cons, List.mem_cons, induction rest]
        by_cases same : offer.observed = first.observed
        · have equal (member : offer ∈ offers) : offer = first :=
            agree offer (List.mem_cons_of_mem _ member) first
              List.mem_cons_self same
          constructor
          · rintro (rfl | ⟨member, -⟩)
            · exact ⟨.inl rfl, unsettled⟩
            · exact ⟨.inr member, equal member ▸ unsettled⟩
          · rintro ⟨rfl | member, -⟩
            · exact .inl rfl
            · exact .inl (equal member)
        · have different : offer ≠ first := fun equal =>
            same (by rw [equal])
          rw [Function.update_of_ne same]
          simp [different]

theorem not_mem_taken_of_settled {observed : Observed}
    (settled : ∀ offer ∈ offers, offer.observed = observed →
      times observed = some offer.sample.timestamp) :
    observed ∉ (taken times offers).map Offer.observed := by
  induction offers generalizing times with
  | nil => exact List.not_mem_nil
  | cons first offers induction =>
      obtain ⟨head, tail⟩ := List.forall_mem_cons.1 settled
      unfold taken
      split
      · exact induction tail
      next unsettled =>
        have different : observed ≠ first.observed := by
          rintro rfl
          exact unsettled (head rfl)
        rw [List.map_cons, List.mem_cons, not_or]
        refine ⟨different, induction fun offer member same => ?_⟩
        rw [Function.update_of_ne different]
        exact tail offer member same

/-- Of offers that agree on the times of their slots, no slot is folded
twice. -/
theorem nodup_taken (concordant : Concordant offers) :
    ((taken times offers).map Offer.observed).Nodup := by
  induction offers generalizing times with
  | nil => exact List.nodup_nil
  | cons first offers induction =>
      have rest : Concordant offers :=
        fun left leftMember right rightMember =>
          concordant left (List.mem_cons_of_mem _ leftMember) right
            (List.mem_cons_of_mem _ rightMember)
      unfold taken
      split
      · exact induction rest
      · refine List.nodup_cons.2
          ⟨not_mem_taken_of_settled fun offer member same => ?_,
            induction rest⟩
        rw [Function.update_self]
        exact congrArg some (concordant first List.mem_cons_self offer
          (List.mem_cons_of_mem _ member) same.symm)

/-- Of the pods, none is folded twice for a resource. -/
theorem nodup_samplesFor_taken (concordant : Concordant offers) :
    ((samplesFor resource (taken times offers)).map Prod.fst).Nodup := by
  let kept := (taken times offers).filter fun offer =>
    offer.observed.resource = resource
  have slots : (kept.map Offer.observed).Nodup :=
    (nodup_taken concordant).sublist (List.filter_sublist.map _)
  have same : kept.map Offer.observed =
      ((samplesFor resource (taken times offers)).map Prod.fst).map
        fun pod => ⟨pod, resource⟩ := by
    rw [samplesFor, List.map_map, List.map_map]
    refine List.map_congr_left fun offer member => ?_
    rw [← of_decide_eq_true (List.mem_filter.1 member).2]
    rfl
  exact List.Nodup.of_map _ (same ▸ slots)

/-- Every offer is counted among those of its resource. -/
theorem length_flatMap_samplesFor {resources : List Resource}
    (distinct : resources.Nodup)
    (asked : ∀ offer ∈ offers, offer.observed.resource ∈ resources) :
    (resources.flatMap fun resource => samplesFor resource offers).length =
      offers.length := by
  induction resources generalizing offers with
  | nil =>
      have none : offers = [] := List.eq_nil_iff_forall_not_mem.2
        fun offer member => List.not_mem_nil (asked offer member)
      rw [none]
      rfl
  | cons first resources induction =>
      obtain ⟨fresh, distinctTail⟩ := List.nodup_cons.1 distinct
      let others := offers.filter fun offer =>
        !decide (offer.observed.resource = first)
      have remaining : ∀ offer ∈ others,
          offer.observed.resource ∈ resources := by
        intro offer member
        obtain ⟨listed, different⟩ := List.mem_filter.1 member
        exact (List.mem_cons.1 (asked offer listed)).resolve_left
          (by simpa using different)
      have apart : ∀ resource ∈ resources,
          samplesFor resource offers = samplesFor resource others := by
        intro resource member
        have different := ne_of_mem_of_not_mem member fresh
        unfold samplesFor
        rw [List.filter_filter]
        congr 1
        refine List.filter_congr fun offer _ => ?_
        by_cases same : offer.observed.resource = resource <;>
          simp [same, different]
      have rest : (resources.flatMap fun resource =>
          samplesFor resource offers).length = others.length := by
        rw [← induction distinctTail remaining, List.flatMap_def,
          List.flatMap_def, List.map_congr_left apart]
      rw [List.flatMap_cons, List.length_append, rest, samplesFor,
        List.length_map]
      exact (List.length_eq_length_filter_add _).symm

end

namespace Entry

variable [Analytic α] {quantiles : List (Quantile α)}
  {state : Entry α × Nat} {offers : List (Offer α)}

private theorem times_take {offer : Offer α} :
    (take quantiles state offer).1.folded.find? =
      Function.update state.1.folded.find? offer.observed
        (some offer.sample.timestamp) := by
  funext observed
  rw [folded_take]
  split
  next same => rw [same, Function.update_self]
  next different => rw [Function.update_of_ne different]

/-- An entry records the time of the last offer that it folds for a slot. -/
theorem folded_takeAll (observed : Observed) :
    (takeAll quantiles state offers).1.folded.find? observed =
      (lastTime? (taken state.1.folded.find? offers) observed).or
        (state.1.folded.find? observed) := by
  induction offers generalizing state with
  | nil => rfl
  | cons offer offers induction =>
      rw [takeAll_cons, induction, taken]
      split
      next settled => rw [take_of_settled settled]
      next unsettled =>
        rw [times_take, lastTime?, Option.or_assoc]
        by_cases same : offer.observed = observed
        · subst same
          simp
        · simp [same, Function.update_of_ne (Ne.symm same)]

theorem count_takeAll :
    (takeAll quantiles state offers).2 =
      state.2 + (taken state.1.folded.find? offers).length := by
  induction offers generalizing state with
  | nil => rfl
  | cons offer offers induction =>
      rw [takeAll_cons, induction, taken]
      split
      next settled => rw [take_of_settled settled]
      next unsettled =>
        rw [times_take, take_of_unsettled unsettled,
          List.length_cons]
        omega

/-- The estimator of a resource has the folded samples of the resource
folded, in the order of the offers. -/
theorem estimator_takeAll (resource : Resource) :
    (takeAll quantiles state offers).1.estimators.find? resource =
      Estimator.ingestAll quantiles resource
        (state.1.estimators.find? resource)
        ((samplesFor resource (taken state.1.folded.find? offers)).map
          Prod.snd) := by
  induction offers generalizing state with
  | nil => rfl
  | cons offer offers induction =>
      rw [takeAll_cons, induction, taken]
      split
      next settled => rw [take_of_settled settled]
      next unsettled =>
        rw [times_take, samplesFor_cons]
        by_cases same : offer.observed.resource = resource
        · subst same
          rw [if_pos rfl, take_of_unsettled unsettled,
            SortedMap.find?_alter_self]
          rfl
        · rw [if_neg same, take_of_unsettled unsettled,
            SortedMap.find?_alter_of_ne _ _ (Ne.symm same)]

end Entry

end Profiler

end UsageForecast
