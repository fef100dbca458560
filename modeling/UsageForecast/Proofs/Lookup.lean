import UsageForecast.SortedMap
import Mathlib.Data.List.Sort

/-!
# Look-ups in ordered maps

What a look-up finds after each operation on a map.  Later modules speak about
maps through look-ups only; the entry list is opened here and in folds over
all entries.
-/

namespace UsageForecast

/-- Lists that increase strictly by a key are equal if they have the same
members. -/
theorem eq_of_mem_iff_of_below {κ ι : Type} [Ord κ] [Std.TransOrd κ]
    (key : ι → κ) {left right : List ι}
    (leftBelow : left.Pairwise fun first second =>
      compare (key first) (key second) = .lt)
    (rightBelow : right.Pairwise fun first second =>
      compare (key first) (key second) = .lt)
    (same : ∀ member, member ∈ left ↔ member ∈ right) : left = right := by
  let below (first second : ι) : Prop :=
    compare (key first) (key second) = .lt
  have antisymmetric : Std.Antisymm below := ⟨fun _ _ before after => by
    have reverse := Std.OrientedCmp.gt_of_lt after
    rw [show compare _ _ = _ from before] at reverse
    cases reverse⟩
  have irreflexive : Std.Irrefl below := ⟨fun member => by simp [below]⟩
  exact List.Pairwise.eq_of_mem_iff (r := below) leftBelow rightBelow
    fun {member} => same member

end UsageForecast

namespace UsageForecast.SortedMap

variable {κ ν : Type} [Ord κ]

theorem contains_iff {map : SortedMap κ ν} {key : κ} :
    map.contains key ↔ ∃ value, map.find? key = some value := by
  rw [contains, Option.isSome_iff_exists]

theorem keys_nodup [Std.LawfulEqOrd κ] (map : SortedMap κ ν) :
    map.keys.Nodup := by
  refine List.pairwise_map.2 (map.increasing.imp ?_)
  rintro left right below same
  simp [same] at below

section

variable [Std.TransOrd κ] [Std.LawfulEqOrd κ]

private theorem findIn_eq_some_iff
    {key : κ} {value : ν} {entries : List (κ × ν)}
    (increasing : Increasing entries) :
    findIn key entries = some value ↔ (key, value) ∈ entries := by
  induction entries with
  | nil => simp [findIn]
  | cons head rest induction =>
      obtain ⟨other, old⟩ := head
      obtain ⟨below, tail⟩ := List.pairwise_cons.1 increasing
      have outside (before : compare key other ≠ .gt) :
          (key, value) ∉ rest := by
        intro member
        exact before (Std.OrientedCmp.gt_of_lt (below _ member))
      unfold findIn
      split
      next before =>
        have different : key ≠ other := by
          rintro rfl
          simp at before
        simp [different, outside (by simp [before])]
      next same =>
        obtain rfl := Std.LawfulEqOrd.eq_of_compare same
        simp [outside (by simp), eq_comm]
      next after =>
        have different : key ≠ other := by
          rintro rfl
          simp at after
        simp [different, induction tail]

/-- A look-up finds exactly the entries of a map. -/
theorem find?_eq_some_iff
    {map : SortedMap κ ν} {key : κ} {value : ν} :
    map.find? key = some value ↔ (key, value) ∈ map.entries :=
  findIn_eq_some_iff map.increasing

theorem find?_eq_none_iff {map : SortedMap κ ν} {key : κ} :
    map.find? key = none ↔ key ∉ map.keys := by
  rw [Option.eq_none_iff_forall_ne_some]
  simp only [ne_eq, find?_eq_some_iff, keys, List.mem_map, Prod.exists,
    exists_and_right, exists_eq_right, not_exists]

theorem mem_keys_iff {map : SortedMap κ ν} {key : κ} :
    key ∈ map.keys ↔ (map.find? key).isSome := by
  rw [Option.isSome_iff_ne_none, ne_eq, find?_eq_none_iff,
    Classical.not_not]

theorem mem_keys_of_find? {map : SortedMap κ ν} {key : κ} {value : ν}
    (found : map.find? key = some value) : key ∈ map.keys := by
  rw [mem_keys_iff, found]
  rfl

theorem mem_values_iff {map : SortedMap κ ν} {value : ν} :
    value ∈ map.values ↔ ∃ key, map.find? key = some value := by
  simp [values, find?_eq_some_iff]

/-- Maps with the same look-ups are equal. -/
theorem eq_of_find?_eq {left right : SortedMap κ ν}
    (same : ∀ key, left.find? key = right.find? key) : left = right := by
  refine SortedMap.ext (eq_of_mem_iff_of_below Prod.fst left.increasing
    right.increasing fun (key, value) => ?_)
  rw [← find?_eq_some_iff, same, find?_eq_some_iff]

end

@[simp] theorem find?_empty (key : κ) :
    (∅ : SortedMap κ ν).find? key = none := rfl

private theorem findIn_insertIn [Std.TransOrd κ]
    (key other : κ) (value : ν) (entries : List (κ × ν)) :
    findIn other (insertIn key value entries) =
      if compare other key = .eq then some value
      else findIn other entries := by
  induction entries with
  | nil =>
      unfold insertIn findIn
      cases compare other key <;> simp [findIn]
  | cons head rest induction =>
      obtain ⟨first, old⟩ := head
      unfold insertIn
      split
      next before =>
        rw [findIn]
        cases order : compare other key with
        | lt =>
            have earlier : compare other first = .lt :=
              Std.TransCmp.lt_trans order before
            simp [findIn, earlier]
        | eq => simp
        | gt => simp
      next same =>
        rw [findIn, findIn, Std.TransCmp.congr_right same]
        cases compare other first <;> simp
      next after =>
        rw [findIn, findIn, induction]
        cases order : compare other first with
        | lt =>
            have earlier : compare other key = .lt :=
              Std.TransCmp.lt_trans order (Std.OrientedCmp.lt_of_gt after)
            simp [earlier]
        | eq =>
            have earlier : compare other key = .lt :=
              Std.TransCmp.lt_of_eq_of_lt order
                (Std.OrientedCmp.lt_of_gt after)
            simp [earlier]
        | gt => simp

@[simp] theorem find?_insert_self [Std.TransOrd κ]
    (map : SortedMap κ ν) (key : κ) (value : ν) :
    (map.insert key value).find? key = some value := by
  simp [find?, insert, findIn_insertIn]

theorem find?_insert_of_ne [Std.TransOrd κ] [Std.LawfulEqOrd κ]
    (map : SortedMap κ ν) {key other : κ} (value : ν)
    (different : other ≠ key) :
    (map.insert key value).find? other = map.find? other := by
  simp [find?, insert, findIn_insertIn, different]

theorem find?_insert [Std.TransOrd κ] [Std.LawfulEqOrd κ] [DecidableEq κ]
    (map : SortedMap κ ν) (key other : κ) (value : ν) :
    (map.insert key value).find? other =
      if other = key then some value else map.find? other := by
  by_cases same : other = key
  · simp [same]
  · simp [same, find?_insert_of_ne]

/-- A value that is in place already can be put there again. -/
theorem insert_of_find? [Std.TransOrd κ] [Std.LawfulEqOrd κ] [DecidableEq κ]
    {map : SortedMap κ ν} {key : κ} {value : ν}
    (found : map.find? key = some value) : map.insert key value = map := by
  refine eq_of_find?_eq fun other => ?_
  rw [find?_insert]
  split
  next same => rw [same, found]
  next => rfl

@[simp] theorem find?_alter_self [Std.TransOrd κ]
    (map : SortedMap κ ν) (key : κ) (change : Option ν → ν) :
    (map.alter key change).find? key = some (change (map.find? key)) :=
  find?_insert_self map key _

theorem find?_alter_of_ne [Std.TransOrd κ] [Std.LawfulEqOrd κ]
    (map : SortedMap κ ν) {key other : κ} (change : Option ν → ν)
    (different : other ≠ key) :
    (map.alter key change).find? other = map.find? other :=
  find?_insert_of_ne map _ different

private theorem findIn_map [Std.LawfulEqOrd κ] {μ : Type}
    (change : κ → ν → μ) (key : κ) (entries : List (κ × ν)) :
    findIn key (entries.map fun entry => (entry.1, change entry.1 entry.2)) =
      (findIn key entries).map (change key) := by
  induction entries with
  | nil => rfl
  | cons head rest induction =>
      obtain ⟨other, old⟩ := head
      rw [List.map_cons, findIn, findIn, induction]
      cases order : compare key other with
      | lt => rfl
      | eq => rw [Std.LawfulEqOrd.eq_of_compare order]; rfl
      | gt => rfl

@[simp] theorem find?_mapValues [Std.LawfulEqOrd κ] {μ : Type}
    (map : SortedMap κ ν) (change : κ → ν → μ) (key : κ) :
    (map.mapValues change).find? key =
      (map.find? key).map (change key) :=
  findIn_map change key map.entries

@[simp] theorem find?_filter [Std.TransOrd κ] [Std.LawfulEqOrd κ]
    (map : SortedMap κ ν) (test : κ → ν → Bool) (key : κ) :
    (map.filter test).find? key = (map.find? key).filter (test key) := by
  ext value
  simp [find?_eq_some_iff, filter, Option.filter_eq_some_iff]

theorem find?_filterMapValues [Std.TransOrd κ] [Std.LawfulEqOrd κ] {μ : Type}
    (map : SortedMap κ ν) (change : κ → ν → Option μ) (key : κ) :
    (map.filterMapValues change).find? key =
      (map.find? key).bind (change key) := by
  ext value
  simp only [Option.bind_eq_some_iff, find?_eq_some_iff, filterMapValues,
    List.mem_filterMap, Option.map_eq_some_iff, Prod.mk.injEq]
  constructor
  · rintro ⟨⟨other, old⟩, member, _, changed, rfl, rfl⟩
    exact ⟨old, member, changed⟩
  · rintro ⟨old, member, changed⟩
    exact ⟨(key, old), member, value, changed, rfl, rfl⟩

theorem keys_filter (map : SortedMap κ ν) (test : κ → Bool) :
    (map.filter fun key _ => test key).keys = map.keys.filter test := by
  simp only [keys, filter, List.filter_map, Function.comp_def]

theorem find?_erase [Std.TransOrd κ] [Std.LawfulEqOrd κ] [DecidableEq κ]
    (map : SortedMap κ ν) (key other : κ) :
    (map.erase key).find? other =
      if other = key then none else map.find? other := by
  rw [erase, find?_filter]
  by_cases same : other = key
  · subst same
    cases map.find? other <;> simp [Option.filter]
  · have test : (compare key other != .eq) = true := by
      simpa using fun equal =>
        same (Std.LawfulEqOrd.eq_of_compare equal).symm
    cases map.find? other <;> simp [Option.filter, same, test]

theorem mem_keys_insert_iff [Std.TransOrd κ] [Std.LawfulEqOrd κ]
    {map : SortedMap κ ν} {key other : κ} {value : ν} :
    other ∈ (map.insert key value).keys ↔ other = key ∨ other ∈ map.keys := by
  classical
  rw [mem_keys_iff, mem_keys_iff, find?_insert]
  by_cases same : other = key <;> simp [same]

theorem mem_keys_erase_iff [Std.TransOrd κ] [Std.LawfulEqOrd κ]
    {map : SortedMap κ ν} {key other : κ} :
    other ∈ (map.erase key).keys ↔ other ≠ key ∧ other ∈ map.keys := by
  classical
  rw [mem_keys_iff, mem_keys_iff, find?_erase]
  by_cases same : other = key <;> simp [same]

theorem erase_of_absent [Std.TransOrd κ] [Std.LawfulEqOrd κ]
    {map : SortedMap κ ν} {key : κ} (absent : map.find? key = none) :
    map.erase key = map := by
  classical
  refine eq_of_find?_eq fun other => ?_
  rw [find?_erase]
  split
  next same => rw [same, absent]
  next => rfl

/-- The last of equal keys decides what a list of entries leaves behind. -/
theorem find?_insertAll [Std.TransOrd κ] [Std.LawfulEqOrd κ]
    [DecidableEq κ] (map : SortedMap κ ν) (entries : List (κ × ν))
    (key : κ) :
    (map.insertAll entries).find? key =
      ((entries.reverse.find? fun entry => entry.1 = key).map (·.2)).or
        (map.find? key) := by
  induction entries generalizing map with
  | nil => simp [insertAll]
  | cons entry entries induction =>
      have step := induction (map.insert entry.1 entry.2)
      rw [insertAll] at step ⊢
      rw [List.foldl_cons, step, find?_insert, List.reverse_cons,
        List.find?_append]
      by_cases same : entry.1 = key
      · subst same
        cases entries.reverse.find? fun other => other.1 = entry.1 <;> simp
      · have other : key ≠ entry.1 := Ne.symm same
        cases entries.reverse.find? fun other => other.1 = key <;>
          simp [same, other]

omit [Ord κ] in
theorem of_find?_reverse [DecidableEq κ] {entries : List (κ × ν)} {key : κ}
    {entry : κ × ν}
    (found : entries.reverse.find? (fun entry => entry.1 = key) =
      some entry) : entry ∈ entries ∧ entry.1 = key :=
  ⟨List.mem_reverse.1 (List.mem_of_find?_eq_some found),
    of_decide_eq_true (List.find?_some found :)⟩

section

variable [Std.TransOrd κ] [Std.LawfulEqOrd κ]

theorem mem_keys_ofList {entries : List (κ × ν)} {key : κ} :
    key ∈ (ofList entries).keys ↔ key ∈ entries.map (·.1) := by
  classical
  have lookup := find?_insertAll (∅ : SortedMap κ ν) entries key
  rw [mem_keys_iff]
  change (((∅ : SortedMap κ ν).insertAll entries).find? key).isSome ↔ _
  simp [lookup]

/-- An entry is found unless a later one has its key. -/
theorem find?_ofList_middle [DecidableEq κ] (before after : List (κ × ν))
    (key other : κ) (value : ν) :
    (ofList (before ++ (other, value) :: after)).find? key =
      ((ofList after).find? key).or
        (if key = other then some value else (ofList before).find? key) := by
  have split : ofList (before ++ (other, value) :: after) =
      ((ofList before).insert other value).insertAll after := by
    simp [ofList, insertAll, List.foldl_append]
  have alone : (ofList after).find? key =
      (after.reverse.find? fun entry => entry.1 = key).map (·.2) := by
    change ((∅ : SortedMap κ ν).insertAll after).find? key = _
    rw [find?_insertAll, find?_empty, Option.or_none]
  rw [split, find?_insertAll, find?_insert, alone]

theorem mem_of_find?_ofList {entries : List (κ × ν)} {key : κ} {value : ν}
    (found : (ofList entries).find? key = some value) :
    (key, value) ∈ entries := by
  classical
  change ((∅ : SortedMap κ ν).insertAll entries).find? key = some value
    at found
  rw [find?_insertAll, find?_empty, Option.or_none] at found
  obtain ⟨entry, listed, rfl⟩ := Option.map_eq_some_iff.1 found
  obtain ⟨member, rfl⟩ := of_find?_reverse listed
  exact member

theorem find?_ofList_of_nodup {entries : List (κ × ν)} {key : κ} {value : ν}
    (distinct : (entries.map (·.1)).Nodup)
    (listed : (key, value) ∈ entries) :
    (ofList entries).find? key = some value := by
  have known : key ∈ (ofList entries).keys :=
    mem_keys_ofList.2 (List.mem_map_of_mem listed)
  obtain ⟨other, found⟩ := Option.isSome_iff_exists.1 (mem_keys_iff.1 known)
  have same := List.inj_on_of_nodup_map distinct
    (mem_of_find?_ofList found) listed rfl
  rw [found, (Prod.mk.inj same).2]

/-- The entries of a map replace what another one holds under their keys. -/
theorem find?_insertAll_entries [DecidableEq κ]
    (map other : SortedMap κ ν) (key : κ) :
    (map.insertAll other.entries).find? key =
      (other.find? key).or (map.find? key) := by
  rw [find?_insertAll]
  congr 1
  ext value
  simp only [Option.map_eq_some_iff, find?_eq_some_iff]
  constructor
  · rintro ⟨entry, found, rfl⟩
    obtain ⟨member, rfl⟩ := of_find?_reverse found
    exact member
  · intro member
    cases found : other.entries.reverse.find? fun entry =>
        entry.1 = key with
    | none =>
        have absent := List.find?_eq_none.1 found (key, value)
          (List.mem_reverse.2 member)
        simp at absent
    | some entry =>
        obtain ⟨listed, same⟩ := of_find?_reverse found
        refine ⟨entry, rfl, ?_⟩
        have first := find?_eq_some_iff.2 member
        have second : other.find? key = some entry.2 :=
          find?_eq_some_iff.2 (same ▸ listed)
        rw [first] at second
        exact (Option.some.inj second).symm

theorem ofList_entries (map : SortedMap κ ν) : ofList map.entries = map := by
  classical
  refine eq_of_find?_eq fun key => ?_
  change ((∅ : SortedMap κ ν).insertAll map.entries).find? key = _
  rw [find?_insertAll_entries, find?_empty, Option.or_none]

variable {μ : Type} (change : κ → ν → Option μ → μ)

private theorem find?_alterAll_of_not_mem {key : κ}
    {entries : List (κ × ν)} (start : SortedMap κ μ)
    (absent : key ∉ entries.map (·.1)) :
    (entries.foldl (fun state entry =>
      state.alter entry.1 (change entry.1 entry.2)) start).find? key =
      start.find? key := by
  induction entries generalizing start with
  | nil => rfl
  | cons entry entries induction =>
      simp only [List.map_cons, List.mem_cons, not_or] at absent
      rw [List.foldl_cons, induction _ absent.2,
        find?_alter_of_ne _ _ absent.1]

private theorem find?_alterAll_of_mem {key : κ} {value : ν}
    {entries : List (κ × ν)} (start : SortedMap κ μ)
    (distinct : (entries.map (·.1)).Nodup)
    (member : (key, value) ∈ entries) :
    (entries.foldl (fun state entry =>
      state.alter entry.1 (change entry.1 entry.2)) start).find? key =
      some (change key value (start.find? key)) := by
  induction entries generalizing start with
  | nil => cases member
  | cons entry entries induction =>
      obtain ⟨fresh, distinctTail⟩ := List.nodup_cons.1 distinct
      rw [List.foldl_cons]
      rcases List.mem_cons.1 member with rfl | later
      · rw [find?_alterAll_of_not_mem change _ fresh, find?_alter_self]
      · have different : key ≠ entry.1 :=
          ne_of_mem_of_not_mem (List.mem_map.2 ⟨_, later, rfl⟩) fresh
        rw [induction _ distinctTail later,
          find?_alter_of_ne _ _ different]

/-- Altering a map under every key of another one alters each key once. -/
theorem find?_foldl_alter (map : SortedMap κ ν) (start : SortedMap κ μ)
    (key : κ) :
    (map.foldl (fun state key value => state.alter key (change key value))
      start).find? key =
      match map.find? key with
      | some value => some (change key value (start.find? key))
      | none => start.find? key := by
  cases found : map.find? key with
  | none =>
      exact find?_alterAll_of_not_mem change start
        (find?_eq_none_iff.1 found)
  | some value =>
      exact find?_alterAll_of_mem change start map.keys_nodup
        (find?_eq_some_iff.1 found)

end

section Listing

variable {μ : Type} {number : κ → Nat}

omit [Ord κ] in
theorem enlist_eq_orderedInsert (entry : κ × ν) (entries : List (κ × ν)) :
    enlist number entry entries =
      entries.orderedInsert
        (fun left right => number left.1 ≤ number right.1) entry := by
  induction entries with
  | nil => rfl
  | cons other rest induction =>
      rw [enlist, List.orderedInsert, induction]

/-- Entries are listed by a stable sort. -/
theorem listedBy_eq_insertionSort (map : SortedMap κ ν)
    (number : κ → Nat) :
    map.listedBy number =
      map.entries.insertionSort
        fun left right => number left.1 ≤ number right.1 :=
  congrFun (congrFun (congrArg List.foldr (funext fun entry =>
    funext (enlist_eq_orderedInsert entry))) []) map.entries

theorem perm_listedBy (map : SortedMap κ ν) (number : κ → Nat) :
    (map.listedBy number).Perm map.entries := by
  rw [listedBy_eq_insertionSort]
  exact List.perm_insertionSort _ _

omit [Ord κ] in
private theorem pairwise_enlist {entry : κ × ν} {entries : List (κ × ν)}
    (sorted : entries.Pairwise fun left right =>
      number left.1 ≤ number right.1) :
    (enlist number entry entries).Pairwise fun left right =>
      number left.1 ≤ number right.1 := by
  have total : Std.Total fun left right : κ × ν =>
      number left.1 ≤ number right.1 := ⟨fun _ _ => Nat.le_total _ _⟩
  have trans : IsTrans (κ × ν) fun left right =>
      number left.1 ≤ number right.1 := ⟨fun _ _ _ => Nat.le_trans⟩
  rw [enlist_eq_orderedInsert]
  exact sorted.orderedInsert _ _

omit [Ord κ] in
private theorem enlist_of_le {entry : κ × ν} {entries : List (κ × ν)}
    (first : ∀ other ∈ entries, number entry.1 ≤ number other.1) :
    enlist number entry entries = entry :: entries := by
  cases entries with
  | nil => rfl
  | cons other rest => exact if_pos (first other List.mem_cons_self)

-- The order of the entries matters: only then those that come before the
-- place of an entry are the same with and without the others.
omit [Ord κ] in
private theorem filterMap_enlist {pick : κ × ν → Option (κ × μ)}
    (keyed : ∀ entry kept, pick entry = some kept → kept.1 = entry.1)
    (entry : κ × ν) {entries : List (κ × ν)}
    (sorted : entries.Pairwise fun left right =>
      number left.1 ≤ number right.1) :
    (enlist number entry entries).filterMap pick =
      (pick entry).elim (entries.filterMap pick) fun kept =>
        enlist number kept (entries.filterMap pick) := by
  induction entries with
  | nil => cases picked : pick entry <;> simp [enlist, picked]
  | cons other rest induction =>
      obtain ⟨least, sortedRest⟩ := List.pairwise_cons.1 sorted
      rw [enlist]
      split
      next before =>
        cases picked : pick entry with
        | none => simp [picked]
        | some kept =>
            rw [List.filterMap_cons_some picked]
            refine (enlist_of_le fun later member => ?_).symm
            obtain ⟨source, listed, same⟩ := List.mem_filterMap.1 member
            rw [keyed _ _ picked, keyed _ _ same]
            rcases List.mem_cons.1 listed with rfl | deeper
            · exact before
            · exact before.trans (least source deeper)
      next after =>
        rw [List.filterMap_cons, List.filterMap_cons, induction sortedRest]
        cases found : pick other with
        | none => simp only
        | some shown =>
            cases picked : pick entry with
            | none => simp only [Option.elim_none]
            | some kept =>
                simp only [Option.elim_some]
                refine (if_neg ?_).symm
                rwa [keyed _ _ picked, keyed _ _ found]

/-- Leaving entries out does not change the order of the others. -/
theorem listedBy_filterMapValues (map : SortedMap κ ν)
    (change : κ → ν → Option μ) (number : κ → Nat) :
    (map.filterMapValues change).listedBy number =
      (map.listedBy number).filterMap fun entry =>
        (change entry.1 entry.2).map fun value => (entry.1, value) := by
  have keyed : ∀ (entry : κ × ν) kept,
      ((change entry.1 entry.2).map fun value => (entry.1, value)) =
        some kept → kept.1 = entry.1 := by
    rintro entry _ picked
    obtain ⟨value, -, rfl⟩ := Option.map_eq_some_iff.1 picked
    rfl
  have listed (entries : List (κ × ν)) :
      (entries.foldr (enlist number) []).Pairwise (fun left right =>
          number left.1 ≤ number right.1) ∧
        (entries.filterMap fun entry =>
          (change entry.1 entry.2).map fun value =>
            (entry.1, value)).foldr (enlist number) [] =
          (entries.foldr (enlist number) []).filterMap fun entry =>
            (change entry.1 entry.2).map fun value => (entry.1, value) := by
    induction entries with
    | nil => exact ⟨.nil, rfl⟩
    | cons entry entries induction =>
        obtain ⟨sorted, same⟩ := induction
        refine ⟨pairwise_enlist sorted, ?_⟩
        rw [List.foldr_cons, filterMap_enlist keyed entry sorted, ← same,
          List.filterMap_cons]
        cases change entry.1 entry.2 <;> rfl
  exact (listed map.entries).2

end Listing

end UsageForecast.SortedMap

namespace UsageForecast

open SortedMap

theorem mem_sortDistinct_iff
    {κ : Type} [Ord κ] [Std.TransOrd κ] [Std.LawfulEqOrd κ]
    {member : κ} {members : List κ} :
    member ∈ sortDistinct members ↔ member ∈ members := by
  rw [sortDistinct, mem_keys_ofList, List.map_map]
  simp

theorem sortDistinct_nodup
    {κ : Type} [Ord κ] [Std.TransOrd κ] [Std.LawfulEqOrd κ]
    (members : List κ) : (sortDistinct members).Nodup :=
  keys_nodup _

/-- A list is strictly sorted. -/
def Ascending {κ : Type} [Ord κ] (members : List κ) : Prop :=
  members.Pairwise fun left right => compare left right = .lt

theorem ascending_sortDistinct {κ : Type} [Ord κ] [Std.TransOrd κ]
    (members : List κ) : Ascending (sortDistinct members) :=
  List.pairwise_map.2 (SortedMap.ofList _).increasing

/-- The distinct members of two lists in order are the same iff the lists have
the same members. -/
theorem sortDistinct_eq_iff
    {κ : Type} [Ord κ] [Std.TransOrd κ] [Std.LawfulEqOrd κ]
    {left right : List κ} :
    sortDistinct left = sortDistinct right ↔
      ∀ member, member ∈ left ↔ member ∈ right := by
  constructor
  · intro same member
    rw [← mem_sortDistinct_iff, same, mem_sortDistinct_iff]
  · intro same
    refine eq_of_mem_iff_of_below id (ascending_sortDistinct left)
      (ascending_sortDistinct right) fun member => ?_
    rw [mem_sortDistinct_iff, mem_sortDistinct_iff, same]

end UsageForecast
