import Mathlib
import UsageForecast.Histogram.Basic
import UsageForecast.Proofs.ExactScalar
import UsageForecast.Proofs.Lookup

/-!
# The weights of the buckets of a histogram

Without rounding, a sample adds its weight to one bucket and to the total, and
decay leaves a total that is the sum of the weights that stay.  Samples that
never decay are counted, in whatever order they come.
-/

namespace UsageForecast

theorem Layout.find_lt {α : Type} [Analytic α] (layout : Layout α)
    (value : α) : layout.find value < layout.bucketCount := by
  unfold find bucketCount
  split
  · exact Nat.succ_pos _
  · exact Nat.lt_succ_of_le (Nat.min_le_right _ _)

namespace Histogram

open Exact

section

variable {K : Type} [Field K]

/-- The weight of some buckets together if of each one only a portion
counts. -/
def weigh (portion : Nat → K) (entries : List (Nat × K)) : K :=
  (entries.map fun entry => portion entry.1 * entry.2).sum

theorem weigh_cons (portion : Nat → K) (entry : Nat × K)
    (rest : List (Nat × K)) :
    weigh portion (entry :: rest) =
      portion entry.1 * entry.2 + weigh portion rest := by
  rw [weigh, List.map_cons, List.sum_cons, weigh]

theorem weigh_append (portion : Nat → K) (left right : List (Nat × K)) :
    weigh portion (left ++ right) =
      weigh portion left + weigh portion right := by
  rw [weigh, List.map_append, List.sum_append, weigh, weigh]

theorem weigh_eq_of_portion {portion : Nat → K} {share : K}
    {entries : List (Nat × K)}
    (same : ∀ entry ∈ entries, portion entry.1 = share) :
    weigh portion entries = share * (entries.map Prod.snd).sum := by
  rw [weigh, ← List.sum_map_mul_left]
  congr 1
  exact List.map_congr_left fun entry member => by rw [same entry member]

theorem weigh_insertIn (portion : Nat → K) (index : Nat) (weight : K)
    (entries : List (Nat × K)) :
    weigh portion (SortedMap.insertIn index weight entries) =
      weigh portion entries + portion index *
        (weight - (SortedMap.findIn index entries).getD 0) := by
  induction entries with
  | nil => simp [weigh, SortedMap.insertIn, SortedMap.findIn]
  | cons entry rest induction =>
      obtain ⟨other, old⟩ := entry
      unfold SortedMap.insertIn SortedMap.findIn
      cases order : compare index other with
      | lt =>
          simp only [weigh_cons, Option.getD_none]
          ring
      | eq =>
          obtain rfl := Std.LawfulEqOrd.eq_of_compare order
          simp only [weigh_cons, Option.getD_some]
          ring
      | gt =>
          simp only [weigh_cons, induction]
          ring

theorem weigh_alter (portion : Nat → K) (weights : SortedMap Nat K)
    (index : Nat) (weight : K) :
    weigh portion
        (weights.alter index fun old => old.getD 0 + weight).entries =
      weigh portion weights.entries + portion index * weight := by
  change weigh portion (SortedMap.insertIn _ _ _) = _
  rw [weigh_insertIn, SortedMap.find?, add_sub_cancel_left]

theorem weigh_one (weights : SortedMap Nat K) :
    weigh (fun _ => 1) weights.entries = weights.values.sum := by
  simp [weigh, SortedMap.values]

end

variable {K : Type} [Field K] [LinearOrder K] [FloorRing K]
  [Transcendental K]

/-- The total is what the buckets weigh, and every bucket weighs something. -/
structure Balanced (histogram : Histogram K) : Prop where
  total : histogram.total = histogram.weights.values.sum
  positive : ∀ entry ∈ histogram.weights.entries, 0 < entry.2

/-- All buckets have an index below a bound. -/
def Within (histogram : Histogram K) (count : Nat) : Prop :=
  ∀ entry ∈ histogram.weights.entries, entry.1 < count

theorem add_eq (histogram : Histogram K) {value weight : K}
    (positive : 0 < weight) :
    histogram.add value weight =
      { histogram with
        weights := histogram.weights.alter (histogram.layout.find value)
          fun old => old.getD 0 + weight
        total := histogram.total + weight } := by
  unfold add
  rw [if_neg positive.not_ge, if_pos (isFinite_eq _)]

theorem add_layout (histogram : Histogram K) (value weight : K) :
    (histogram.add value weight).layout = histogram.layout := by
  unfold add
  split
  · rfl
  · rfl

theorem decay_layout (histogram : Histogram K) (factor : K) :
    (histogram.decay factor).layout = histogram.layout := by
  unfold decay
  split <;> rfl

theorem balanced_empty (layout : Layout K) : (empty layout).Balanced :=
  ⟨rfl, nofun⟩

theorem Within.add {histogram : Histogram K} {count : Nat}
    (within : histogram.Within count)
    (covers : histogram.layout.bucketCount ≤ count) {value weight : K}
    (positive : 0 < weight) : (histogram.add value weight).Within count := by
  rw [add_eq _ positive]
  intro entry member
  rcases SortedMap.mem_insertIn member with rfl | earlier
  · exact (histogram.layout.find_lt value).trans_le covers
  · exact within entry earlier

theorem Within.decay {histogram : Histogram K} {count : Nat}
    (within : histogram.Within count) (factor : K) :
    (histogram.decay factor).Within count := by
  unfold Histogram.decay
  split
  · exact within
  · intro entry member
    obtain ⟨earlier, held, rfl⟩ :=
      List.mem_map.1 (List.mem_filter.1 member).1
    exact within earlier held

theorem add_right_comm (histogram : Histogram K)
    {first second firstWeight secondWeight : K}
    (firstPositive : 0 < firstWeight) (secondPositive : 0 < secondWeight) :
    (histogram.add first firstWeight).add second secondWeight =
      (histogram.add second secondWeight).add first firstWeight := by
  simp only [add_eq _ firstPositive, add_eq _ secondPositive]
  congr 1
  · refine SortedMap.eq_of_find?_eq fun index => ?_
    simp only [SortedMap.alter, SortedMap.find?_insert]
    grind
  · ring

/-- The histogram of some values that never decayed. -/
noncomputable def tally (layout : Layout K) (values : List K) : Histogram K :=
  values.foldl (fun histogram value => histogram.add value 1) (empty layout)

theorem tally_concat (layout : Layout K) (values : List K) (value : K) :
    tally layout (values ++ [value]) = (tally layout values).add value 1 :=
  List.foldl_concat ..

theorem tally_eq_of_perm (layout : Layout K) {left right : List K}
    (same : left.Perm right) : tally layout left = tally layout right :=
  same.foldl_eq'
    (fun _ _ _ _ histogram => add_right_comm histogram one_pos one_pos) _

@[simp] theorem tally_layout (layout : Layout K) (values : List K) :
    (tally layout values).layout = layout := by
  induction values using List.reverseRecOn with
  | nil => rfl
  | append_singleton values value induction =>
      rw [tally_concat, add_eq _ one_pos, induction]

theorem total_tally (layout : Layout K) (values : List K) :
    (tally layout values).total = values.length := by
  induction values using List.reverseRecOn with
  | nil => exact Nat.cast_zero.symm
  | append_singleton values value induction =>
      rw [tally_concat, add_eq _ one_pos, induction, List.length_append,
        List.length_singleton, Nat.cast_succ]

/-- Every value counts once, in its bucket. -/
theorem weigh_tally (portion : Nat → K) (layout : Layout K)
    (values : List K) :
    weigh portion (tally layout values).weights.entries =
      (values.map fun value => portion (layout.find value)).sum := by
  induction values using List.reverseRecOn with
  | nil => rfl
  | append_singleton values value induction =>
      rw [tally_concat, add_eq _ one_pos, weigh_alter, induction,
        tally_layout, List.map_append, List.sum_append, List.map_singleton,
        List.sum_singleton, mul_one]

variable [IsStrictOrderedRing K]

theorem Balanced.add {histogram : Histogram K}
    (balanced : histogram.Balanced) {value weight : K}
    (positive : 0 < weight) : (histogram.add value weight).Balanced := by
  rw [add_eq _ positive]
  refine ⟨?_, ?_⟩
  · rw [← weigh_one, weigh_alter, weigh_one, one_mul, balanced.total]
  · intro entry member
    rcases SortedMap.mem_insertIn member with rfl | earlier
    · cases known : histogram.weights.find? (histogram.layout.find value) with
      | none => simpa using positive
      | some old =>
          have held := balanced.positive _
            (SortedMap.find?_eq_some_iff.1 known)
          exact add_pos held positive
    · exact balanced.positive entry earlier

theorem balanced_tally (layout : Layout K) (values : List K) :
    (tally layout values).Balanced := by
  induction values using List.reverseRecOn with
  | nil => exact balanced_empty layout
  | append_singleton values value induction =>
      rw [tally_concat]
      exact induction.add one_pos

theorem leastWeight_pos : (0 : K) < leastWeight := by
  rw [leastWeight, scientific_eq]
  positivity

theorem Balanced.decay {histogram : Histogram K}
    (balanced : histogram.Balanced) (factor : K) :
    (histogram.decay factor).Balanced := by
  unfold Histogram.decay
  split
  · exact balanced
  · refine ⟨sum_eq _, ?_⟩
    intro entry member
    have heavy := of_decide_eq_true (List.mem_filter.1 member).2
    exact leastWeight_pos.trans_le heavy

theorem entries_decay_zero (histogram : Histogram K) :
    (histogram.decay 0).weights.entries = [] := by
  unfold Histogram.decay
  rw [if_neg zero_lt_one.not_ge]
  refine List.filter_eq_nil_iff.2 fun entry member => ?_
  obtain ⟨_, -, rfl⟩ := List.mem_map.1 member
  simpa using leastWeight_pos

end Histogram

end UsageForecast
