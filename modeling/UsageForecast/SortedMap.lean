/-!
# Maps ordered by key

A finite map is the list of its entries with strictly increasing keys.  The
order is part of the type, so two maps with the same look-ups are equal and
every listing of a map is already in the order answers show.
-/

namespace UsageForecast

def Increasing {κ ν : Type} [Ord κ] (entries : List (κ × ν)) : Prop :=
  entries.Pairwise fun left right => compare left.1 right.1 = .lt

/-- A finite map, listed by strictly increasing key. -/
structure SortedMap (κ ν : Type) [Ord κ] where
  entries : List (κ × ν)
  increasing : Increasing entries

namespace SortedMap

variable {κ ν : Type} [Ord κ]

@[ext]
theorem ext {left right : SortedMap κ ν}
    (entries : left.entries = right.entries) : left = right := by
  cases left
  cases right
  simpa using entries

instance [DecidableEq κ] [DecidableEq ν] : DecidableEq (SortedMap κ ν) :=
  fun left right =>
    if same : left.entries = right.entries then
      isTrue (SortedMap.ext same)
    else
      isFalse fun equality => same (congrArg entries equality)

def empty : SortedMap κ ν := ⟨[], List.Pairwise.nil⟩

instance : EmptyCollection (SortedMap κ ν) := ⟨empty⟩

instance : Inhabited (SortedMap κ ν) := ⟨empty⟩

def findIn (key : κ) : List (κ × ν) → Option ν
  | [] => none
  | (other, value) :: rest =>
      match compare key other with
      | .lt => none
      | .eq => some value
      | .gt => findIn key rest

def find? (map : SortedMap κ ν) (key : κ) : Option ν :=
  findIn key map.entries

def contains (map : SortedMap κ ν) (key : κ) : Bool :=
  (map.find? key).isSome

/-- Insertion into an entry list; an entry of the same key is replaced. -/
def insertIn (key : κ) (value : ν) : List (κ × ν) → List (κ × ν)
  | [] => [(key, value)]
  | (other, old) :: rest =>
      match compare key other with
      | .lt => (key, value) :: (other, old) :: rest
      | .eq => (key, value) :: rest
      | .gt => (other, old) :: insertIn key value rest

theorem mem_insertIn
    {key : κ} {value : ν} {entries : List (κ × ν)} {entry : κ × ν}
    (member : entry ∈ insertIn key value entries) :
    entry = (key, value) ∨ entry ∈ entries := by
  induction entries with
  | nil => simpa [insertIn] using member
  | cons head rest induction =>
      obtain ⟨other, old⟩ := head
      unfold insertIn at member
      split at member
      · simpa using member
      · rcases List.mem_cons.1 member with same | later
        · exact .inl same
        · exact .inr (List.mem_cons_of_mem _ later)
      · rcases List.mem_cons.1 member with same | later
        · exact .inr (same ▸ List.mem_cons_self)
        · rcases induction later with same | deeper
          · exact .inl same
          · exact .inr (List.mem_cons_of_mem _ deeper)

theorem increasing_insertIn [Std.TransOrd κ]
    {key : κ} {value : ν} {entries : List (κ × ν)}
    (increasing : Increasing entries) :
    Increasing (insertIn key value entries) := by
  induction entries with
  | nil => exact List.pairwise_singleton _ _
  | cons head rest induction =>
      obtain ⟨other, old⟩ := head
      obtain ⟨below, tail⟩ := List.pairwise_cons.1 increasing
      unfold insertIn
      split
      next before =>
        refine List.pairwise_cons.2 ⟨fun entry member => ?_, increasing⟩
        rcases List.mem_cons.1 member with same | later
        · exact same ▸ before
        · exact Std.TransCmp.lt_trans before (below entry later)
      next same =>
        refine List.pairwise_cons.2 ⟨fun entry member => ?_, tail⟩
        exact Std.TransCmp.lt_of_eq_of_lt same (below entry member)
      next after =>
        refine List.pairwise_cons.2 ⟨fun entry member => ?_, induction tail⟩
        rcases mem_insertIn member with same | later
        · exact same ▸ Std.OrientedCmp.lt_of_gt after
        · exact below entry later

def insert [Std.TransOrd κ] (map : SortedMap κ ν) (key : κ) (value : ν) :
    SortedMap κ ν :=
  ⟨insertIn key value map.entries, increasing_insertIn map.increasing⟩

def filter (map : SortedMap κ ν) (test : κ → ν → Bool) : SortedMap κ ν :=
  ⟨map.entries.filter fun entry => test entry.1 entry.2,
    map.increasing.sublist List.filter_sublist⟩

def erase (map : SortedMap κ ν) (key : κ) : SortedMap κ ν :=
  map.filter fun other _ => compare key other != .eq

def mapValues {μ : Type} (map : SortedMap κ ν) (change : κ → ν → μ) :
    SortedMap κ μ :=
  ⟨map.entries.map fun entry => (entry.1, change entry.1 entry.2),
    List.pairwise_map.2 (map.increasing.imp fun below => below)⟩

/-- Keep and change the values for which the change succeeds. -/
def filterMapValues {μ : Type} (map : SortedMap κ ν)
    (change : κ → ν → Option μ) : SortedMap κ μ :=
  ⟨map.entries.filterMap fun entry =>
      (change entry.1 entry.2).map fun value => (entry.1, value), by
    refine List.pairwise_filterMap.2 (map.increasing.imp ?_)
    intro left right below
    simp only [Option.map_eq_some_iff]
    rintro _ ⟨_, _, rfl⟩ _ ⟨_, _, rfl⟩
    exact below⟩

/-- Insert the entries of a list from left to right; the last of a key stays. -/
def insertAll [Std.TransOrd κ] (map : SortedMap κ ν)
    (entries : List (κ × ν)) : SortedMap κ ν :=
  entries.foldl (fun map entry => map.insert entry.1 entry.2) map

/-- The map of a list of entries; the last of a key stays. -/
def ofList [Std.TransOrd κ] (entries : List (κ × ν)) : SortedMap κ ν :=
  empty.insertAll entries

/-- Store the result of a change of what a key holds. -/
def alter [Std.TransOrd κ] (map : SortedMap κ ν) (key : κ)
    (change : Option ν → ν) : SortedMap κ ν :=
  map.insert key (change (map.find? key))

def keys (map : SortedMap κ ν) : List κ := map.entries.map (·.1)

def values (map : SortedMap κ ν) : List ν := map.entries.map (·.2)

def size (map : SortedMap κ ν) : Nat := map.entries.length

def isEmpty (map : SortedMap κ ν) : Bool := map.entries.isEmpty

def foldl {σ : Type} (map : SortedMap κ ν) (step : σ → κ → ν → σ)
    (start : σ) : σ :=
  map.entries.foldl (fun state entry => step state entry.1 entry.2) start

/-- Put an entry before those whose keys have the same number or a greater
one. -/
def enlist (number : κ → Nat) (entry : κ × ν) :
    List (κ × ν) → List (κ × ν)
  | [] => [entry]
  | other :: rest =>
      if number entry.1 ≤ number other.1 then entry :: other :: rest
      else other :: enlist number entry rest

/-- The entries in the order of numbers that their keys have; keys of one
number stay in their own order. -/
def listedBy (map : SortedMap κ ν) (number : κ → Nat) : List (κ × ν) :=
  map.entries.foldr (enlist number) []

end SortedMap

/-- The distinct members of a list in increasing order. -/
def sortDistinct {κ : Type} [Ord κ] [Std.TransOrd κ] (members : List κ) :
    List κ :=
  (SortedMap.ofList (members.map fun member => (member, ()))).keys

/-- Compare pairs by their first components, then by their second. -/
abbrev comparePairs {κ ν : Type} [Ord κ] [Ord ν] :
    κ × ν → κ × ν → Ordering :=
  compareLex (compareOn Prod.fst) (compareOn Prod.snd)

namespace SortedMap

variable {κ ν : Type} [Ord κ] [Ord ν]

/-- Maps compare as their entry lists do. -/
instance : Ord (SortedMap κ ν) :=
  ⟨fun left right =>
    List.compareLex comparePairs left.entries right.entries⟩

instance [Std.TransOrd κ] [Std.TransOrd ν] :
    Std.TransOrd (SortedMap κ ν) where
  eq_swap {left right} :=
    @Std.OrientedCmp.eq_swap _ (List.compareLex comparePairs) _
      left.entries right.entries
  isLE_trans {left middle right} :=
    @Std.TransCmp.isLE_trans _ (List.compareLex comparePairs) _
      left.entries middle.entries right.entries

instance [Std.LawfulEqOrd κ] [Std.LawfulEqOrd ν] :
    Std.LawfulEqCmp (comparePairs (κ := κ) (ν := ν)) where
  compare_self {pair} := by
    simp [comparePairs, compareLex, compareOn]
  eq_of_compare {left right} same := by
    simp only [comparePairs, compareLex, compareOn, Ordering.then_eq_eq] at same
    exact Prod.ext (Std.LawfulEqCmp.eq_of_compare same.1)
      (Std.LawfulEqCmp.eq_of_compare same.2)

instance [Std.LawfulEqOrd κ] [Std.LawfulEqOrd ν] :
    Std.LawfulEqOrd (SortedMap κ ν) where
  compare_self {map} :=
    @Std.ReflCmp.compare_self _ (List.compareLex comparePairs) _ map.entries
  eq_of_compare {left right} same :=
    SortedMap.ext
      (@Std.LawfulEqCmp.eq_of_compare _ (List.compareLex comparePairs) _
        left.entries right.entries same)

end SortedMap

end UsageForecast
