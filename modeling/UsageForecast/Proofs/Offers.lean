import UsageForecast.Profiler.Cycle
import UsageForecast.Proofs.Lookup

/-!
# Samples offered to an entry

A cycle offers samples to its entries, and an entry folds an offer unless the
last offer folded for the same pod and resource has the same time.  What is
offered depends on the caches and the spec only, so that folding can be
studied for arbitrary lists of offers.

An entry is settled on a list of offers if each of them is the last one it has
folded for its pod and resource.  Settled entries fold nothing, and a list
settles an entry exactly if it never offers two times for one slot.
-/

namespace UsageForecast.Profiler

variable {α : Type}

/-- A sample that is offered to an entry. -/
structure Offer (α : Type) where
  observed : Observed
  sample : Sample α

/-- No pod and resource is offered at two different times. -/
def Concordant (offers : List (Offer α)) : Prop :=
  ∀ left ∈ offers, ∀ right ∈ offers, left.observed = right.observed →
    left.sample.timestamp = right.sample.timestamp

/-- Offers whose times can be looked up by their slots agree on them. -/
theorem concordant_of_times
    {time : Observed → Option Instant} {offers : List (Offer α)}
    (times : ∀ offer ∈ offers,
      time offer.observed = some offer.sample.timestamp) :
    Concordant offers := by
  intro left leftMember right rightMember same
  have leftTime := times left leftMember
  have rightTime := times right rightMember
  rw [same, rightTime] at leftTime
  exact (Option.some.inj leftTime).symm

namespace Entry

/-- Every offer is the last one that was folded for its pod and resource. -/
def Settled (entry : Entry α) (offers : List (Offer α)) : Prop :=
  ∀ offer ∈ offers,
    entry.folded.find? offer.observed = some offer.sample.timestamp

theorem Settled.concordant
    {entry : Entry α} {offers : List (Offer α)}
    (settled : entry.Settled offers) : Concordant offers :=
  concordant_of_times settled

/-- A property of all estimators of an entry. -/
def Every (property : Resource → Estimator α → Prop)
    (entry : Entry α) : Prop :=
  ∀ resource estimator,
    entry.estimators.find? resource = some estimator →
      property resource estimator

variable [Analytic α]

/-- Offer a sample, and count it if it is folded. -/
def take (quantiles : List (Quantile α)) (state : Entry α × Nat)
    (offer : Offer α) : Entry α × Nat :=
  let (entry, folded) := state.1.fold quantiles offer.observed.pod
    offer.observed.resource offer.sample
  (entry, state.2 + folded.toNat)

/-- Offer samples one after another. -/
def takeAll (quantiles : List (Quantile α)) (state : Entry α × Nat)
    (offers : List (Offer α)) : Entry α × Nat :=
  offers.foldl (take quantiles) state

variable {quantiles : List (Quantile α)} {state : Entry α × Nat}
  {offer : Offer α} {offers : List (Offer α)}

theorem take_of_settled
    (settled : state.1.folded.find? offer.observed =
      some offer.sample.timestamp) :
    take quantiles state offer = state := by
  simp [take, fold, settled]

theorem take_of_unsettled
    (unsettled : state.1.folded.find? offer.observed ≠
      some offer.sample.timestamp) :
    take quantiles state offer =
      ({ state.1 with
        folded := state.1.folded.insert offer.observed
          offer.sample.timestamp
        estimators := state.1.estimators.alter offer.observed.resource
          fun known => (known.getD (Estimator.forResource
            offer.observed.resource quantiles)).ingest offer.sample },
      state.2 + 1) := by
  simp [take, fold, unsettled]

theorem folded_take (observed : Observed) :
    (take quantiles state offer).1.folded.find? observed =
      if observed = offer.observed then some offer.sample.timestamp
      else state.1.folded.find? observed := by
  by_cases settled : state.1.folded.find? offer.observed =
      some offer.sample.timestamp
  · rw [take_of_settled settled]
    split
    next same => rw [same, settled]
    next => rfl
  · rw [take_of_unsettled settled, SortedMap.find?_insert]

theorem takeAll_cons :
    takeAll quantiles state (offer :: offers) =
      takeAll quantiles (take quantiles state offer) offers := rfl

theorem takeAll_append (more : List (Offer α)) :
    takeAll quantiles state (offers ++ more) =
      takeAll quantiles (takeAll quantiles state offers) more :=
  List.foldl_append

@[simp] theorem lastSeen_take :
    (take quantiles state offer).1.lastSeen = state.1.lastSeen := by
  by_cases settled : state.1.folded.find? offer.observed =
      some offer.sample.timestamp
  · rw [take_of_settled settled]
  · rw [take_of_unsettled settled]

@[simp] theorem lastSeen_takeAll :
    (takeAll quantiles state offers).1.lastSeen = state.1.lastSeen := by
  induction offers generalizing state with
  | nil => rfl
  | cons offer offers induction =>
      rw [takeAll_cons, induction, lastSeen_take]

/-- A settled entry folds nothing. -/
theorem takeAll_of_settled (settled : state.1.Settled offers) :
    takeAll quantiles state offers = state := by
  induction offers with
  | nil => rfl
  | cons offer offers induction =>
      have head := settled offer List.mem_cons_self
      rw [takeAll_cons, take_of_settled head]
      exact induction fun later member =>
        settled later (List.mem_cons_of_mem _ member)

-- The induction is on the offers that are still to come; those already taken
-- stay settled because no later offer has another time for their slot.
private theorem settled_takeAll_append
    (seen : List (Offer α)) (settled : state.1.Settled seen)
    (concordant : Concordant (seen ++ offers)) :
    (takeAll quantiles state offers).1.Settled (seen ++ offers) := by
  induction offers generalizing state seen with
  | nil => simpa [takeAll] using settled
  | cons offer offers induction =>
      have step :
          (take quantiles state offer).1.Settled (seen ++ [offer]) := by
        intro earlier member
        rw [folded_take]
        split
        next same =>
          have included : earlier ∈ seen ++ offer :: offers := by
            rcases List.mem_append.1 member with before | last
            · exact List.mem_append_left _ before
            · simp [List.mem_singleton.1 last]
          exact congrArg some
            (concordant offer (by simp) earlier included same.symm)
        next different =>
          refine settled earlier ?_
          refine (List.mem_append.1 member).resolve_right fun last => ?_
          exact different (by rw [List.mem_singleton.1 last])
      have remaining := induction (seen ++ [offer]) step
        (by simpa using concordant)
      simpa [takeAll_cons] using remaining

/-- Offers that agree on the times of their slots settle every entry. -/
theorem settled_takeAll (concordant : Concordant offers) :
    (takeAll quantiles state offers).1.Settled offers := by
  have settled : state.1.Settled [] := by simp [Settled]
  simpa using settled_takeAll_append [] settled concordant

/-- The count so far does not influence what is folded. -/
theorem takeAll_add (entry : Entry α) (count more : Nat) :
    takeAll quantiles (entry, count + more) offers =
      ((takeAll quantiles (entry, count) offers).1,
        (takeAll quantiles (entry, count) offers).2 + more) := by
  induction offers generalizing entry count with
  | nil => rfl
  | cons offer offers induction =>
      have shifted : take quantiles (entry, count + more) offer =
          ((take quantiles (entry, count) offer).1,
            (take quantiles (entry, count) offer).2 + more) := by
        simp only [take, Prod.mk.injEq, true_and]
        omega
      rw [takeAll_cons, shifted, induction, takeAll_cons]

/-- A property of estimators that new estimators have and that folding keeps
holds after any list of offers. -/
theorem every_takeAll
    {property : Resource → Estimator α → Prop}
    (created : ∀ offer ∈ offers, property offer.observed.resource
      (Estimator.forResource offer.observed.resource quantiles))
    (kept : ∀ resource estimator (sample : Sample α),
      property resource estimator →
        property resource (estimator.ingest sample))
    (every : state.1.Every property) :
    (takeAll quantiles state offers).1.Every property := by
  induction offers generalizing state with
  | nil => exact every
  | cons offer offers induction =>
      rw [takeAll_cons]
      refine induction (fun later member =>
        created later (List.mem_cons_of_mem _ member)) ?_
      by_cases settled : state.1.folded.find? offer.observed =
          some offer.sample.timestamp
      · rw [take_of_settled settled]
        exact every
      · rw [take_of_unsettled settled]
        intro resource estimator found
        by_cases same : resource = offer.observed.resource
        · subst same
          rw [SortedMap.find?_alter_self] at found
          rw [← Option.some.inj found]
          refine kept _ _ _ ?_
          cases known : state.1.estimators.find?
              offer.observed.resource with
          | none => exact created offer List.mem_cons_self
          | some old => exact every _ _ known
        · rw [SortedMap.find?_alter_of_ne _ _ same] at found
          exact every _ _ found

end Entry

end UsageForecast.Profiler
