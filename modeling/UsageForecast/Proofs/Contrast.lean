import UsageForecast.Proofs.PodTotals
import UsageForecast.Proofs.SingleQuantity

/-!
# Cycles that read the same but at one place

To compare what two cycles fold that read the same but at one place, the
offers of both are seen as one plan that is open at this place.  Which offers
are folded is decided by their times, so that the cycles fold the same samples
in the same order, with the reading of the one or of the other cycle filled
in, and none where it reads nothing.
-/

namespace UsageForecast

namespace Profiler

section

variable {α : Type} {times : Observed → Option Instant}
  {offers : List (Offer α)}

/-- The samples that are folded for a resource depend on the offers for the
resource only. -/
theorem samplesFor_taken_filter (resource : Resource) :
    samplesFor resource (taken times
        (offers.filter fun offer => offer.observed.resource = resource)) =
      samplesFor resource (taken times offers) := by
  rw [taken_filter (fun observed => observed.resource = resource)
    fun _ _ => rfl]
  unfold samplesFor
  rw [List.filter_filter]
  simp only [Bool.and_self]

variable (times) in
/-- Of offers for a slot at one time, at most one is folded. -/
theorem count_taken_le_one {slot : Observed} {time : Instant}
    (together : ∀ offer ∈ offers, offer.observed = slot →
      offer.sample.timestamp = time) :
    (taken times offers).countP (fun offer => offer.observed = slot) ≤ 1 := by
  induction offers generalizing times with
  | nil => exact Nat.zero_le _
  | cons offer offers induction =>
      obtain ⟨head, tail⟩ := List.forall_mem_cons.1 together
      unfold taken
      split
      · exact induction _ tail
      · by_cases same : offer.observed = slot
        · have rest : (taken (Function.update times offer.observed
              (some offer.sample.timestamp)) offers).countP
                (fun offer => offer.observed = slot) = 0 := by
            rw [List.countP_eq_zero]
            intro later folded found
            refine not_mem_taken_of_settled (fun next member asked => ?_)
              (List.mem_map.2 ⟨later, folded, of_decide_eq_true found⟩)
            rw [same, Function.update_self, head same, tail next member asked]
          rw [List.countP_cons_of_pos (by simpa using same), rest]
        · rw [List.countP_cons_of_neg (by simpa using same)]
          exact induction _ tail

/-- Fill in the value of an offer if it is open; without one the offer is not
made. -/
def Offer.fill (value : Option α) (planned : Offer (Option α)) :
    Option (Offer α) :=
  (planned.sample.value.or value).map fun value =>
    ⟨planned.observed, planned.sample.timestamp, value⟩

/-- The sample of an offer, unless its value is open. -/
def Offer.piece (planned : Offer (Option α)) : Option (Sample α) :=
  planned.sample.value.map fun value => ⟨planned.sample.timestamp, value⟩

/-- The samples of a resource in a plan, with its gaps. -/
def piecesFor (resource : Resource) (plan : List (Offer (Option α))) :
    List (Option (Sample α)) :=
  (plan.filter fun planned => planned.observed.resource = resource).map
    Offer.piece

section

variable {plan : List (Offer (Option α))} {value : Option α}

/-- What is folded of a filled plan is what is folded of the plan, filled. -/
theorem taken_fill
    (filled : ∀ planned ∈ plan, (Offer.fill value planned).isSome) :
    taken times (plan.filterMap (Offer.fill value)) =
      (taken times plan).filterMap (Offer.fill value) := by
  induction plan generalizing times with
  | nil => rfl
  | cons planned plan induction =>
      obtain ⟨head, tail⟩ := List.forall_mem_cons.1 filled
      obtain ⟨offer, found⟩ := Option.isSome_iff_exists.1 head
      obtain ⟨_, -, rfl⟩ := Option.map_eq_some_iff.1 found
      rw [List.filterMap_cons_some found, taken, taken]
      dsimp only
      split
      · exact induction tail
      · rw [List.filterMap_cons_some found, induction tail]

/-- This is also true of a plan that stays open, if it is open for one slot
and at all offers for the slot. -/
theorem taken_fill_none {slot : Observed}
    (gaps : ∀ planned ∈ plan,
      planned.sample.value = none ↔ planned.observed = slot) :
    taken times (plan.filterMap (Offer.fill none)) =
      (taken times plan).filterMap (Offer.fill none) := by
  let closed (planned : Offer (Option α)) : Bool :=
    planned.observed ≠ slot
  have dropped {plan : List (Offer (Option α))}
      (gaps : ∀ planned ∈ plan,
        planned.sample.value = none ↔ planned.observed = slot) :
      (plan.filter closed).filterMap (Offer.fill none) =
        plan.filterMap (Offer.fill none) := by
    rw [List.filterMap_filter]
    refine List.filterMap_congr fun planned member => ?_
    by_cases opened : planned.observed = slot
    · have empty := (gaps planned member).2 opened
      simp [closed, opened, Offer.fill, empty]
    · simp [closed, opened]
  rw [← dropped gaps, taken_fill, taken_filter (· ≠ slot) fun _ _ => rfl]
  · exact dropped fun planned member => gaps planned (taken_subset member)
  · intro planned member
    obtain ⟨listed, outside⟩ := List.mem_filter.1 member
    have closed : planned.sample.value ≠ none := fun empty =>
      of_decide_eq_true outside ((gaps planned listed).1 empty)
    obtain ⟨value, known⟩ := Option.ne_none_iff_exists'.1 closed
    simp [Offer.fill, known]

/-- The samples of a resource in a filled plan are those of the plan,
filled with a reading at the time of the plan. -/
theorem samplesFor_fill {resource : Resource} {reading : Option (Sample α)}
    (timely : ∀ planned ∈ plan, planned.sample.value = none →
      ∀ sample ∈ reading, sample.timestamp = planned.sample.timestamp) :
    (samplesFor resource
        (plan.filterMap (Offer.fill (reading.map Sample.value)))).map
          Prod.snd =
      (piecesFor resource plan).filterMap fun piece => piece.or reading := by
  have each : ∀ planned ∈ plan,
      Offer.fill (reading.map Sample.value) planned =
        (planned.piece.or reading).map fun sample =>
          ⟨planned.observed, sample⟩ := by
    rintro ⟨observed, timestamp, value⟩ member
    cases value with
    | some value => rfl
    | none =>
        cases reading with
        | none => rfl
        | some sample =>
            obtain rfl : sample.timestamp = timestamp :=
              timely _ member rfl sample rfl
            rfl
  rw [List.filterMap_congr each]
  simp only [samplesFor, piecesFor, List.filter_filterMap,
    List.map_filterMap, List.filterMap_map,
    List.filterMap_filter]
  refine List.filterMap_congr fun planned _ => ?_
  cases found : planned.piece.or reading with
  | none => simp [found]
  | some sample =>
      by_cases same : planned.observed.resource = resource <;>
        simp [found, same]

end

end

end Profiler

/-- Two caches that read the same at all places but one. -/
structure Contrast (α : Type) [Scalar α] where
  left : Repository α
  right : Repository α
  source : Source
  pod : PodName
  container : String
  resource : Resource
  same : left.SameBut source pod container resource right

namespace Contrast

open Profiler

section

variable {α : Type} [Scalar α] (contrast : Contrast α)

/-- One of the two caches. -/
def Has (side : Repository α) : Prop :=
  side = contrast.left ∨ side = contrast.right

/-- What a cache reads at the place where the two differ. -/
def shown? (side : Repository α) : Option (Sample α) :=
  side.reading? contrast.source contrast.resource contrast.container
    contrast.pod

/-- The slot of the place where the caches differ. -/
def slot : Observed := ⟨contrast.pod, contrast.resource⟩

/-- The time of the place where the caches differ. -/
def time? : Option Instant :=
  ((contrast.shown? contrast.left).or
    (contrast.shown? contrast.right)).map Sample.timestamp

/-- What both caches read of the container, open at the place where they
differ. -/
def reading? (query : Source × Resource) (owner : PodName) :
    Option (Sample (Option α)) :=
  if query = (contrast.source, contrast.resource) ∧ owner = contrast.pod then
    contrast.time?.map fun time => ⟨time, none⟩
  else
    (contrast.left.reading? query.1 query.2 contrast.container owner).map
      fun sample => ⟨sample.timestamp, some sample.value⟩

/-- What a query offers to the entry of the container with either of the
caches. -/
def planned (hashes : Hashes) (key : ProfileKey) (pods : List PodName)
    (query : Source × Resource) : List (Offer (Option α)) :=
  (listing (hashes key contrast.container query) pods).filterMap
    fun owner => (contrast.reading? query owner).map fun sample =>
      ⟨⟨owner, query.2⟩, sample⟩

/-- What cycles with either of the caches offer to the entry of the
container. -/
def plan (hashes : Hashes) (key : ProfileKey)
    (queries : List (Source × Resource)) (pods : List PodName) :
    List (Offer (Option α)) :=
  queries.flatMap (contrast.planned hashes key pods)

/-- In another order the plan makes the same offers to each slot. -/
theorem sameSlots_plan (hashes others : Hashes) (key : ProfileKey)
    (queries : List (Source × Resource)) (pods : List PodName) :
    SameSlots (contrast.plan hashes key queries pods)
      (contrast.plan others key queries pods) := by
  refine SameSlots.flatMap fun query => sameSlots_of_perm ?_
    ((perm_listing _ pods).trans (perm_listing _ pods).symm)
  intro pod offer made
  obtain ⟨sample, -, rfl⟩ := Option.map_eq_some_iff.1 made
  rfl

/-- No other source that is asked for the resource has a reading. -/
def Sole (queries : List (Source × Resource)) : Prop :=
  ∀ source, (source, contrast.resource) ∈ queries →
    source ≠ contrast.source →
      contrast.left.reading? source contrast.resource contrast.container
        contrast.pod = none

variable {contrast} {side : Repository α}

theorem time?_of_shown (has : contrast.Has side) {sample : Sample α}
    (shown : contrast.shown? side = some sample) :
    contrast.time? = some sample.timestamp := by
  unfold time?
  rcases has with rfl | rfl
  · rw [shown]
    rfl
  · cases other : contrast.shown? contrast.left with
    | none =>
        rw [shown]
        rfl
    | some first =>
        have together := contrast.same.times first sample other shown
        exact congrArg some together

theorem reading?_of_has (has : contrast.Has side)
    {query : Source × Resource} {owner : PodName}
    (apart : ¬ (query = (contrast.source, contrast.resource) ∧
      owner = contrast.pod)) :
    side.reading? query.1 query.2 contrast.container owner =
      contrast.left.reading? query.1 query.2 contrast.container owner := by
  rcases has with rfl | rfl
  · rfl
  · refine (contrast.same.others _ _ _ _ fun equal => apart ?_).symm
    simp only [Prod.mk.injEq] at equal
    exact ⟨Prod.ext equal.1 equal.2.1, equal.2.2.2⟩

variable {hashes : Hashes} {key : ProfileKey}
  {queries : List (Source × Resource)} {pods : List PodName}
  {planned : Offer (Option α)}

theorem mem_plan (member : planned ∈ contrast.plan hashes key queries pods) :
    ∃ query ∈ queries, ∃ owner,
      contrast.reading? query owner = some planned.sample ∧
        planned.observed = ⟨owner, query.2⟩ := by
  obtain ⟨query, asked, member⟩ := List.mem_flatMap.1 member
  obtain ⟨owner, -, member⟩ := List.mem_filterMap.1 member
  obtain ⟨sample, read, rfl⟩ := Option.map_eq_some_iff.1 member
  exact ⟨query, asked, owner, read, rfl⟩

/-- A plan is open at the place where the caches differ only. -/
theorem gap_of_mem_plan
    (member : planned ∈ contrast.plan hashes key queries pods)
    (gap : planned.sample.value = none) :
    planned.observed = contrast.slot ∧
      contrast.time? = some planned.sample.timestamp := by
  obtain ⟨query, -, owner, read, observed⟩ := mem_plan member
  unfold reading? at read
  split at read
  next place =>
    obtain ⟨time, known, same⟩ := Option.map_eq_some_iff.1 read
    obtain ⟨rfl, rfl⟩ := place
    exact ⟨observed, by rw [known, ← same]⟩
  next =>
    obtain ⟨sample, -, same⟩ := Option.map_eq_some_iff.1 read
    rw [← same] at gap
    cases gap

/-- If no other source has a reading, the plan is open at all offers for the
slot. -/
theorem gap_iff_of_sole (sole : contrast.Sole queries)
    (member : planned ∈ contrast.plan hashes key queries pods) :
    planned.sample.value = none ↔ planned.observed = contrast.slot := by
  refine ⟨fun gap => (gap_of_mem_plan member gap).1, fun same => ?_⟩
  obtain ⟨⟨other, asked⟩, listed, owner, read, observed⟩ := mem_plan member
  obtain ⟨rfl, rfl⟩ := Observed.mk.inj (observed.symm.trans same)
  unfold reading? at read
  split at read
  next =>
    obtain ⟨time, -, filled⟩ := Option.map_eq_some_iff.1 read
    rw [← filled]
  next apart =>
    have silent := sole other listed fun same => apart ⟨by rw [same], rfl⟩
    rw [silent] at read
    cases read

end

section

variable {α : Type} [Analytic α] {contrast : Contrast α}
  {side : Repository α} {hashes : Hashes} {key : ProfileKey}
  {queries : List (Source × Resource)} {pods : List PodName}
  {times : Observed → Option Instant}

private theorem fill_reading (has : contrast.Has side)
    (query : Source × Resource) (owner : PodName) :
    ((contrast.reading? query owner).map fun sample =>
        (⟨⟨owner, query.2⟩, sample⟩ : Offer (Option α))).bind
        (Offer.fill ((contrast.shown? side).map Sample.value)) =
      (side.reading? query.1 query.2 contrast.container owner).map
        fun sample => ⟨⟨owner, query.2⟩, sample⟩ := by
  unfold reading?
  split
  next place =>
    obtain ⟨rfl, rfl⟩ := place
    change _ = (contrast.shown? side).map _
    cases shown : contrast.shown? side with
    | none => cases contrast.time? <;> rfl
    | some sample =>
        rw [time?_of_shown has shown]
        rfl
  next apart =>
    rw [reading?_of_has has apart]
    cases contrast.left.reading? query.1 query.2 contrast.container owner <;>
      rfl

/-- A cycle with either cache makes the offers of the plan, with what the
cache reads filled in. -/
theorem offers_eq_fill (has : contrast.Has side) :
    queries.flatMap (queryOffers (side.seeded hashes) key pods
        contrast.container) =
      (contrast.plan hashes key queries pods).filterMap
        (Offer.fill ((contrast.shown? side).map Sample.value)) := by
  rw [plan, List.filterMap_flatMap]
  refine congrArg queries.flatMap (funext fun query => ?_)
  rw [queryOffers_eq, planned, List.filterMap_filterMap]
  exact List.filterMap_congr fun owner _ => (fill_reading has query owner).symm

/-- What is folded for the resource are the same samples with either cache,
but for what it reads where the two differ. -/
theorem samples_of_plan (has : contrast.Has side)
    (settled : (contrast.shown? contrast.left).isSome =
      (contrast.shown? contrast.right).isSome ∨ contrast.Sole queries) :
    (samplesFor contrast.resource (taken times
        (queries.flatMap (queryOffers (side.seeded hashes) key pods
          contrast.container)))).map Prod.snd =
      (piecesFor contrast.resource
        (taken times (contrast.plan hashes key queries pods))).filterMap
          fun piece => piece.or (contrast.shown? side) := by
  have filled : taken times ((contrast.plan hashes key queries pods).filterMap
        (Offer.fill ((contrast.shown? side).map Sample.value))) =
      (taken times (contrast.plan hashes key queries pods)).filterMap
        (Offer.fill ((contrast.shown? side).map Sample.value)) := by
    cases shown : contrast.shown? side with
    | some sample =>
        refine taken_fill fun planned _ => ?_
        cases found : planned.sample.value <;> simp [Offer.fill, found]
    | none =>
        rcases settled with alike | sole
        · have timeless : contrast.time? = none := by
            have neither : contrast.shown? contrast.left = none ∧
                contrast.shown? contrast.right = none := by
              rcases has with rfl | rfl
              · rw [shown] at alike
                exact ⟨shown, by simpa using alike.symm⟩
              · rw [shown] at alike
                exact ⟨by simpa using alike, shown⟩
            rw [time?, neither.1, neither.2]
            rfl
          refine taken_fill fun planned member => ?_
          cases found : planned.sample.value with
          | some value => simp [Offer.fill, found]
          | none =>
              rw [(gap_of_mem_plan member found).2] at timeless
              cases timeless
        · exact taken_fill_none fun planned member =>
            gap_iff_of_sole sole member
  rw [offers_eq_fill has, filled, samplesFor_fill]
  intro planned member gap sample shown
  have time := (gap_of_mem_plan (taken_subset member) gap).2
  rw [time?_of_shown has shown] at time
  exact Option.some.inj time

/-- If no other source has a reading, one sample may differ at most. -/
theorem count_gaps_le_one (sole : contrast.Sole queries) :
    (piecesFor contrast.resource (taken times
      (contrast.plan hashes key queries pods))).countP Option.isNone ≤ 1 := by
  have together : ∀ planned ∈ contrast.plan hashes key queries pods,
      planned.observed = contrast.slot →
        planned.sample.timestamp = contrast.time?.getD ⟨0, 0⟩ := by
    intro planned member same
    have gap := (gap_iff_of_sole sole member).2 same
    rw [(gap_of_mem_plan member gap).2, Option.getD_some]
  refine Nat.le_trans ?_ (count_taken_le_one times together)
  rw [piecesFor, List.countP_map, List.countP_filter]
  refine List.countP_mono_left fun planned member counted => ?_
  have gap : planned.sample.value = none := by
    simp only [Function.comp_apply, Offer.piece, Bool.and_eq_true,
      Option.isNone_map, Option.isNone_iff_eq_none] at counted
    exact counted.1
  simpa using (gap_of_mem_plan (taken_subset member) gap).1

theorem queryOffers_of_apart {name : String}
    {query : Source × Resource}
    (apart : (name, query.2) ≠ (contrast.container, contrast.resource)) :
    queryOffers (contrast.left.seeded hashes) key pods name query =
      queryOffers (contrast.right.seeded hashes) key pods name query := by
  rw [queryOffers_eq, queryOffers_eq]
  refine List.filterMap_congr fun owner _ => ?_
  rw [Repository.reading?_seeded, Repository.reading?_seeded,
    contrast.same.others]
  intro equal
  simp only [Prod.mk.injEq] at equal
  exact apart (Prod.ext equal.2.2.1 equal.2.1)

/-- For another resource the same is folded with either cache. -/
theorem samplesFor_of_ne {resource : Resource}
    (different : resource ≠ contrast.resource) :
    samplesFor resource (taken times
        (queries.flatMap (queryOffers (contrast.left.seeded hashes) key pods
          contrast.container))) =
      samplesFor resource (taken times
        (queries.flatMap (queryOffers (contrast.right.seeded hashes) key pods
          contrast.container))) := by
  have filtered :
      (queries.flatMap (queryOffers (contrast.left.seeded hashes) key pods
        contrast.container)).filter
          (fun offer => offer.observed.resource = resource) =
      (queries.flatMap (queryOffers (contrast.right.seeded hashes) key pods
        contrast.container)).filter
          (fun offer => offer.observed.resource = resource) := by
    rw [List.filter_flatMap, List.filter_flatMap]
    refine congrArg queries.flatMap (funext fun query => ?_)
    by_cases asked : query.2 = resource
    · rw [queryOffers_of_apart fun equal =>
        different (asked ▸ (Prod.mk.inj equal).2)]
    · have none (side : Repository α) :
          (queryOffers side key pods contrast.container query).filter
            (fun offer => offer.observed.resource = resource) = [] := by
        rw [queryOffers_eq, List.filter_eq_nil_iff]
        intro offer member
        obtain ⟨owner, -, made⟩ := List.mem_filterMap.1 member
        obtain ⟨sample, -, rfl⟩ := Option.map_eq_some_iff.1 made
        simpa using asked
      rw [none, none]
  rw [← samplesFor_taken_filter, filtered, samplesFor_taken_filter]

end

end Contrast

end UsageForecast
