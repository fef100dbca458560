import UsageForecast.Proofs.AnswerOrder
import UsageForecast.Proofs.RunningStatistics

/-!
# Samples in another order

Without rounding it makes no difference in which order an estimator gets its
next samples, as long as they can be counted, and so a cycle does not depend on
the order in which its answers list their pods.  With binary numbers it does:
the mean is rounded after each sample.
-/

namespace UsageForecast

namespace Estimator

/-- Samples that can be counted may be folded in any order. -/
def Orderless (α : Type) [Analytic α] : Prop :=
  ∀ (quantiles : List (Quantile α)) (resource : Resource)
    (known : Option (Estimator α)) (left right : List (Sample α)),
    left.Perm right →
      (counted known).toNat + left.length < UInt64.size →
        ingestAll quantiles resource known left =
          ingestAll quantiles resource known right

section

open Exact

variable {K : Type} [Field K] [LinearOrder K] [FloorRing K]
  [Transcendental K] [IsStrictOrderedRing K]

private theorem toNat_add_one {count : UInt64}
    (room : count.toNat + 1 < UInt64.size) :
    (count + 1).toNat = count.toNat + 1 := by
  rw [UInt64.toNat_add]
  exact Nat.mod_eq_of_lt room

omit [IsStrictOrderedRing K] in
theorem count_ingest (estimator : Estimator K) (sample : Sample K) :
    (estimator.ingest sample).count = estimator.count + 1 := by
  rw [ingest, if_pos (isFinite_eq _)]

theorem ingest_right_comm (estimator : Estimator K) (first second : Sample K)
    (room : estimator.count.toNat + 2 < UInt64.size) :
    (estimator.ingest first).ingest second =
      (estimator.ingest second).ingest first := by
  have one : (estimator.count + 1).toNat = estimator.count.toNat + 1 :=
    toNat_add_one (Nat.lt_of_succ_lt room)
  have two : (estimator.count + 1 + 1).toNat =
      estimator.count.toNat + 2 := by
    rw [toNat_add_one (by rwa [one]), one]
  have later : estimator.count + 1 + 1 ≠ 1 := by
    intro same
    rw [same] at two
    change 1 = _ at two
    omega
  have positive : (estimator.count.toNat : K) + 1 ≠ 0 := by positivity
  have above : (estimator.count.toNat : K) + 2 ≠ 0 := by positivity
  unfold ingest
  simp only [isFinite_eq, if_true, mk.injEq, if_neg later, smaller_eq_min,
    larger_eq_max, one, two, true_and, Nat.cast_add, Nat.cast_one,
    Nat.cast_ofNat]
  refine ⟨?mean, ?spread, ?least, ?greatest, ?first, ?last, ?histogram⟩
  case mean =>
    field_simp
    ring
  case spread =>
    field_simp
    ring
  case least =>
    split
    · exact min_comm _ _
    · exact min_right_comm _ _ _
  case greatest =>
    split
    · exact max_comm _ _
    · exact max_right_comm _ _ _
  case first =>
    cases estimator.firstSampleStart with
    | none =>
        change [_, _].min? = [_, _].min?
        exact min?_eq_of_perm (.swap _ _ _)
    | some time =>
        change [time, _, _].min? = [time, _, _].min?
        exact min?_eq_of_perm (.cons _ (.swap _ _ _))
  case last =>
    cases estimator.lastSampleStart with
    | none =>
        change [_, _].max? = [_, _].max?
        exact max?_eq_of_perm (.swap _ _ _)
    | some time =>
        change [time, _, _].max? = [time, _, _].max?
        exact max?_eq_of_perm (.cons _ (.swap _ _ _))
  case histogram => exact Histogram.add_right_comm _ one_pos one_pos

theorem foldl_ingest_of_perm {left right : List (Sample K)}
    (perm : left.Perm right) (estimator : Estimator K)
    (room : estimator.count.toNat + left.length < UInt64.size) :
    left.foldl ingest estimator = right.foldl ingest estimator := by
  induction perm generalizing estimator with
  | nil => rfl
  | cons sample _ induction =>
      refine induction _ ?_
      rw [List.length_cons] at room
      rw [count_ingest, toNat_add_one (by omega)]
      omega
  | swap first second rest =>
      rw [List.length_cons, List.length_cons] at room
      exact congrArg (rest.foldl ingest)
        (ingest_right_comm estimator second first (by omega))
  | trans before _ first second =>
      exact (first estimator room).trans
        (second estimator (before.length_eq ▸ room))

omit [IsStrictOrderedRing K] in
private theorem ingestAll_cons (quantiles : List (Quantile K))
    (resource : Resource) (known : Option (Estimator K)) (sample : Sample K)
    (samples : List (Sample K)) :
    ingestAll quantiles resource known (sample :: samples) =
      some ((sample :: samples).foldl ingest
        (known.getD (forResource resource quantiles))) := by
  rw [ingestAll, List.foldl_cons, List.foldl_cons]
  generalize (known.getD _).ingest sample = estimator
  induction samples generalizing estimator with
  | nil => rfl
  | cons sample samples induction => exact induction _

/-- Exact numbers can be folded in any order. -/
theorem orderless_of_exact : Orderless K := by
  intro quantiles resource known left right perm room
  cases left with
  | nil => rw [perm.nil_eq]
  | cons first left =>
      cases right with
      | nil => cases perm.eq_nil
      | cons second right =>
          rw [ingestAll_cons, ingestAll_cons]
          refine congrArg some (foldl_ingest_of_perm perm _ ?_)
          cases known <;> exact room

end

end Estimator

namespace Profiler

open Estimator (Orderless counted)

variable {σ α : Type} [Analytic α]

/-- An entry becomes the same if its offers come in another order. -/
theorem Entry.takeAll_of_sameSlots (orderless : Orderless α)
    {quantiles : List (Quantile α)} {entry : Entry α}
    {left right : List (Offer α)} (same : SameSlots left right)
    (room : ∀ resource,
      (counted (entry.estimators.find? resource)).toNat + left.length <
        UInt64.size) :
    (takeAll quantiles (entry, 0) left).1 =
      (takeAll quantiles (entry, 0) right).1 := by
  have estimators : (takeAll quantiles (entry, 0) left).1.estimators =
      (takeAll quantiles (entry, 0) right).1.estimators := by
    refine SortedMap.eq_of_find?_eq fun resource => ?_
    rw [estimator_takeAll, estimator_takeAll]
    refine orderless _ _ _ _ _ ((same.samplesFor _ resource).map _) ?_
    rw [List.length_map]
    exact (Nat.add_le_add_left length_samplesFor_taken_le _).trans_lt
      (room resource)
  have lastSeen : (takeAll quantiles (entry, 0) left).1.lastSeen =
      (takeAll quantiles (entry, 0) right).1.lastSeen := by
    rw [lastSeen_takeAll, lastSeen_takeAll]
  have folded : (takeAll quantiles (entry, 0) left).1.folded =
      (takeAll quantiles (entry, 0) right).1.folded := by
    refine SortedMap.eq_of_find?_eq fun observed => ?_
    rw [folded_takeAll, folded_takeAll, (same.taken _).lastTime?]
  exact (congr (congr (congrArg Entry.mk estimators) lastSeen) folded :)

variable {settings : Settings α} {resolver : Resolver}
  {repository : Repository α} {now : Instant} {profiler : Profiler α}

private theorem length_flatMap_le {ι κ : Type} {members : List ι}
    {offered : ι → List κ} {bound : Nat}
    (each : ∀ member, (offered member).length ≤ bound) :
    (members.flatMap offered).length ≤ members.length * bound := by
  rw [List.length_flatMap,
    ← List.length_map fun member => (offered member).length]
  refine List.sum_le_card_nsmul _ _ fun count listed => ?_
  obtain ⟨member, -, rfl⟩ := List.mem_map.1 listed
  exact each member

private theorem length_queryOffers_le (key : ProfileKey)
    (pods : List PodName) (container : String) (query : Source × Resource) :
    (queryOffers repository key pods container query).length ≤
      pods.length := by
  rw [queryOffers_eq]
  refine (List.length_filterMap_le _ _).trans ?_
  rw [(perm_listing _ pods).length_eq]
  exact ((sortDistinct_nodup pods).subperm
    fun pod => mem_sortDistinct_iff.1).length_le

private theorem length_podOffers_le (answers : QueryAnswers α)
    (resource : Resource) (pod : Pod) :
    (podOffers answers resource pod).length ≤ 1 := by
  unfold podOffers
  split
  · exact Nat.zero_le 1
  · split
    · exact Nat.zero_le 1
    · exact Nat.le_refl 1

/-- Each query offers at most one sample of each pod to an entry. -/
theorem length_offersTo_le (pods : List Pod) (name : String) :
    (profiler.offersTo resolver repository pods name).length ≤
      profiler.spec.queries.length * pods.length := by
  by_cases listed : name ∈
      (profiler.offersFor resolver repository pods).map (·.1)
  · obtain ⟨⟨_, offered⟩, member, rfl⟩ := List.mem_map.1 listed
    rw [offersTo_of_mem member]
    unfold offersFor offers at member
    cases level : profiler.key.level with
    | container =>
        rw [level] at member
        obtain ⟨container, -, same⟩ := List.mem_map.1 member
        obtain ⟨rfl, rfl⟩ := Prod.mk.inj same
        refine length_flatMap_le fun query => ?_
        rw [← List.length_map Pod.id]
        exact length_queryOffers_le _ _ _ _
    | pod =>
        rw [level] at member
        obtain ⟨rfl, rfl⟩ := Prod.mk.inj (List.mem_singleton.1 member)
        refine length_flatMap_le fun query => ?_
        rw [← Nat.mul_one pods.length]
        exact length_flatMap_le fun pod => length_podOffers_le _ _ pod
  · rw [offersTo_of_not_mem listed]
    exact Nat.zero_le _

/-- The estimators can count a sample of each pod for each query. -/
def HasRoom (resolver : Resolver) (profiler : Profiler α) : Prop :=
  ∀ pods, resolver.pods profiler.key.target = .ok pods →
    ∀ name resource,
      (counted (profiler.estimator? name resource)).toNat +
          profiler.spec.queries.length * pods.length <
        UInt64.size

theorem advance_seeded (orderless : Orderless α)
    (room : profiler.HasRoom resolver) {pods : List Pod}
    (resolved : resolver.pods profiler.key.target = .ok pods)
    (hashes : Hashes) :
    profiler.advance settings resolver (repository.seeded hashes) now pods =
      profiler.advance settings resolver repository now pods := by
  have served :
      (profiler.served settings resolver (repository.seeded hashes) now
        pods).1 =
      (profiler.served settings resolver repository now pods).1 := by
    refine SortedMap.eq_of_find?_eq fun name => ?_
    rw [find?_served, find?_served, names_offersFor_seeded]
    split
    · have same := sameSlots_offersTo resolver repository pods profiler
        hashes name
      refine congrArg some (Entry.takeAll_of_sameSlots orderless same
        fun resource => ?_)
      rw [estimator_recipient, Estimator.counted_decay]
      exact (Nat.add_le_add_left (length_offersTo_le pods name) _).trans_lt
        (room pods resolved name resource)
    · rfl
  rw [advance, served, advance]

/-- Without rounding a cycle does not depend on the order of its answers. -/
theorem profile_seeded [CheckpointStore σ α] (orderless : Orderless α)
    (room : profiler.HasRoom resolver) (store : σ)
    (hashes : Hashes) :
    profiler.profile settings resolver (repository.seeded hashes) now store =
      profiler.profile settings resolver repository now store := by
  cases found : resolver.pods profiler.key.target with
  | error failure =>
      rw [profile_of_unresolved settings _ now store found,
        profile_of_unresolved settings _ now store found]
  | ok pods =>
      rw [profile_of_resolved settings _ now store found,
        profile_of_resolved settings _ now store found,
        advance_seeded orderless room found, tally_seeded]

end Profiler

end UsageForecast
