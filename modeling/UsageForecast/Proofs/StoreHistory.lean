import UsageForecast.Proofs.DirectoryStore
import UsageForecast.Scalar.Binary
import Mathlib.Data.List.Induction

/-!
# Histories of calls on a store

Calls on a lawful store are answered as a map in memory answers them.  What a
map holds for a key after some calls is the checkpoint of the key that was
saved last, unless the key has been deleted since.
-/

namespace UsageForecast

variable {σ α : Type}

inductive StoreCall (α : Type) where
  | save (checkpoint : Checkpoint α)
  | load (key : ProfileKey)
  | delete (key : ProfileKey)
  | list

inductive StoreAnswer (α : Type) where
  | saved (outcome : Except Failure Unit)
  | loaded (outcome : Except Failure (Option (Checkpoint α)))
  | deleted (outcome : Except Failure Bool)
  | listed (outcome : Except Failure (List Checkpoint.Info))

/-- Two answers are equal, but for the order of a listing. -/
def StoreAnswer.Agrees : StoreAnswer α → StoreAnswer α → Prop
  | .listed (.ok left), .listed (.ok right) => left.Perm right
  | left, right => left = right

namespace StoreCall

/-- The key that a call is about. -/
def key? : StoreCall α → Option ProfileKey
  | .save checkpoint => some checkpoint.key
  | .load key => some key
  | .delete key => some key
  | .list => none

def perform [CheckpointStore σ α] (store : σ) :
    StoreCall α → σ × StoreAnswer α
  | .save checkpoint =>
      let (store, outcome) := CheckpointStore.save store checkpoint
      (store, .saved outcome)
  | .load key => (store, .loaded (CheckpointStore.load store key))
  | .delete key =>
      let (store, outcome) := CheckpointStore.delete α store key
      (store, .deleted outcome)
  | .list => (store, .listed (CheckpointStore.list α store))

/-- The store that some calls leave behind. -/
def performAll [CheckpointStore σ α] (store : σ)
    (calls : List (StoreCall α)) : σ :=
  calls.foldl (fun store call => (call.perform store).1) store

def answers [CheckpointStore σ α] (store : σ) :
    List (StoreCall α) → List (StoreAnswer α)
  | [] => []
  | call :: rest =>
      let (store, answer) := call.perform store
      answer :: answers store rest

/-- What a key has after a call, from what it had before. -/
def keep (key : ProfileKey) (held : Option (Checkpoint α)) :
    StoreCall α → Option (Checkpoint α)
  | .save checkpoint => if checkpoint.key = key then some checkpoint else held
  | .load _ => held
  | .delete other => if other = key then none else held
  | .list => held

/-- The checkpoint of a key that was saved last, unless it has been deleted
since. -/
def lastSaved? (key : ProfileKey) (calls : List (StoreCall α)) :
    Option (Checkpoint α) :=
  calls.foldl (keep key) none

/-- A call saves a checkpoint of a key or deletes what the key has. -/
def Settles (key : ProfileKey) : StoreCall α → Prop
  | .save checkpoint => checkpoint.key = key
  | .load _ => False
  | .delete other => other = key
  | .list => False

theorem keep_of_not_settles {key : ProfileKey} {call : StoreCall α}
    (other : ¬ call.Settles key) (held : Option (Checkpoint α)) :
    keep key held call = held := by
  cases call with
  | save checkpoint => exact if_neg other
  | load key => rfl
  | delete key => exact if_neg other
  | list => rfl

theorem key?_of_settles {key : ProfileKey} {call : StoreCall α}
    (settles : call.Settles key) : call.key? = some key := by
  cases call with
  | save checkpoint => exact congrArg some settles
  | load other => exact settles.elim
  | delete other => exact congrArg some settles
  | list => exact settles.elim

theorem lastSaved?_concat (key : ProfileKey)
    (calls : List (StoreCall α)) (call : StoreCall α) :
    lastSaved? key (calls ++ [call]) =
      keep key (lastSaved? key calls) call := by
  rw [lastSaved?, List.foldl_concat, lastSaved?]

/-- The last call of a history is a given one, or comes after it. -/
private theorem concat_eq_append_cons
    {calls before after : List (StoreCall α)} {call given : StoreCall α}
    (split : calls ++ [call] = before ++ given :: after) :
    after = [] ∧ call = given ∨
      ∃ front, after = front ++ [call] ∧ calls = before ++ given :: front := by
  rcases List.eq_nil_or_concat' after with rfl | ⟨front, final, rfl⟩
  · obtain ⟨-, same⟩ := List.append_inj' split rfl
    exact .inl ⟨rfl, List.singleton_inj.1 same⟩
  · rw [← List.cons_append, ← List.append_assoc] at split
    obtain ⟨rfl, same⟩ := List.append_inj' split rfl
    obtain rfl := List.singleton_inj.1 same
    exact .inr ⟨front, rfl, rfl⟩

theorem lastSaved?_eq_some_iff {key : ProfileKey}
    {calls : List (StoreCall α)} {checkpoint : Checkpoint α} :
    lastSaved? key calls = some checkpoint ↔
      checkpoint.key = key ∧
        ∃ before after, calls = before ++ .save checkpoint :: after ∧
          ∀ call ∈ after, ¬ call.Settles key := by
  induction calls using List.reverseRecOn with
  | nil => simp [lastSaved?]
  | append_singleton calls call induction =>
      rw [lastSaved?_concat]
      constructor
      · intro held
        by_cases settles : call.Settles key
        · cases call with
          | save other =>
              obtain rfl : other.key = key := settles
              obtain rfl : other = checkpoint := by simpa [keep] using held
              exact ⟨rfl, calls, [], rfl, nofun⟩
          | load other => exact settles.elim
          | delete other =>
              obtain rfl : other = key := settles
              simp [keep] at held
          | list => exact settles.elim
        · rw [keep_of_not_settles settles, induction] at held
          obtain ⟨named, before, after, rfl, quiet⟩ := held
          refine ⟨named, before, after ++ [call], by simp, ?_⟩
          simpa [or_imp, forall_and] using ⟨quiet, settles⟩
      · rintro ⟨named, before, after, split, quiet⟩
        rcases concat_eq_append_cons split with ⟨rfl, rfl⟩ | ⟨front, rfl, rfl⟩
        · exact if_pos named
        · rw [keep_of_not_settles (quiet call (by simp)), induction]
          exact ⟨named, before, front, rfl, fun other member =>
            quiet other (List.mem_append_left _ member)⟩

/-- The right answer to a call after some others. -/
def Correct (earlier : List (StoreCall α)) :
    StoreCall α → StoreAnswer α → Prop
  | .save _, answer => answer = .saved (.ok ())
  | .load key, answer => answer = .loaded (.ok (lastSaved? key earlier))
  | .delete key, answer =>
      answer = .deleted (.ok (lastSaved? key earlier).isSome)
  | .list, answer =>
      ∃ infos, answer = .listed (.ok infos) ∧ infos.Nodup ∧
        ∀ info, info ∈ infos ↔
          ∃ key checkpoint, lastSaved? key earlier = some checkpoint ∧
            checkpoint.info = info

section Memory

theorem find?_perform (store : MemoryStore α) (call : StoreCall α)
    (key : ProfileKey) :
    SortedMap.find? (call.perform store).1 key =
      keep key (store.find? key) call := by
  cases call with
  | save checkpoint =>
      refine (SortedMap.find?_insert _ _ _ _).trans ?_
      simp only [keep, eq_comm]
  | load other => rfl
  | delete other =>
      refine (SortedMap.find?_erase _ _ _).trans ?_
      simp only [keep, eq_comm]
  | list => rfl

theorem find?_performAll (store : MemoryStore α)
    (calls : List (StoreCall α)) (key : ProfileKey) :
    SortedMap.find? (performAll store calls) key =
      calls.foldl (keep key) (store.find? key) := by
  induction calls generalizing store with
  | nil => rfl
  | cons call calls induction =>
      rw [performAll, List.foldl_cons, List.foldl_cons, ← find?_perform]
      exact induction _

theorem find?_performAll_empty (calls : List (StoreCall α))
    (key : ProfileKey) :
    SortedMap.find? (performAll (∅ : MemoryStore α) calls) key =
      lastSaved? key calls :=
  find?_performAll ∅ calls key

theorem keyed_performAll {store : MemoryStore α} (keyed : store.Keyed)
    (calls : List (StoreCall α)) :
    MemoryStore.Keyed (performAll store calls) := by
  induction calls generalizing store with
  | nil => exact keyed
  | cons call calls induction =>
      refine induction ?_
      cases call with
      | save checkpoint => exact keyed.save checkpoint
      | load key => exact keyed
      | delete key => exact keyed.erase key
      | list => exact keyed

/-- A map in memory answers as its history says. -/
theorem correct_memory (earlier : List (StoreCall α))
    (call : StoreCall α) :
    Correct earlier call
      (call.perform (performAll (∅ : MemoryStore α) earlier)).2 := by
  cases call with
  | save checkpoint => rfl
  | load key =>
      exact congrArg (fun held => StoreAnswer.loaded (.ok held))
        (find?_performAll_empty earlier key)
  | delete key =>
      exact congrArg (fun held => StoreAnswer.deleted (.ok held.isSome))
        (find?_performAll_empty earlier key)
  | list =>
      refine ⟨_, rfl,
        (keyed_performAll MemoryStore.keyed_empty earlier).infos_nodup, ?_⟩
      intro info
      simp only [← find?_performAll_empty]
      exact MemoryStore.mem_infos_iff

theorem Correct.of_agrees {earlier : List (StoreCall α)}
    {call : StoreCall α} {left right : StoreAnswer α}
    (correct : Correct earlier call right) (agrees : left.Agrees right) :
    Correct earlier call left := by
  unfold StoreAnswer.Agrees at agrees
  split at agrees
  next listed listing =>
    cases call with
    | list =>
        obtain ⟨infos, same, distinct, members⟩ := correct
        cases same
        exact ⟨listed, rfl, agrees.nodup_iff.2 distinct, fun info =>
          agrees.mem_iff.trans (members info)⟩
    | save checkpoint => cases correct
    | load key => cases correct
    | delete key => cases correct
  next => rwa [agrees]

theorem Correct.unique {earlier later : List (StoreCall α)}
    {call : StoreCall α} {key : ProfileKey} (about : call.key? = some key)
    (unchanged : lastSaved? key later = lastSaved? key earlier)
    {left right : StoreAnswer α} (before : Correct earlier call left)
    (after : Correct later call right) : right = left := by
  cases call with
  | save checkpoint => exact after.trans before.symm
  | load other =>
      cases about
      rw [Correct, unchanged] at after
      exact after.trans before.symm
  | delete other =>
      cases about
      rw [Correct, unchanged] at after
      exact after.trans before.symm
  | list => cases about

end Memory

section Lawful

variable [CheckpointStore σ α] [LawfulStore σ α]

variable (σ) in
/-- A call keeps to keys from a list and saves what can be kept. -/
structure Fits (keys : List ProfileKey) (call : StoreCall α) : Prop where
  listed : ∀ key ∈ call.key?, key ∈ keys
  storable : ∀ checkpoint, call = .save checkpoint →
    LawfulStore.Storable σ checkpoint

/-- A store mirrors a map whose keys are from a list. -/
def MirrorsWithin (keys : List ProfileKey) (store : σ)
    (map : MemoryStore α) : Prop :=
  LawfulStore.Mirrors store map ∧ map.keys ⊆ keys

variable {keys : List ProfileKey} {store : σ} {map : MemoryStore α}

theorem perform_mirrors
    (apart : ∀ key ∈ keys, ∀ other ∈ keys,
      LawfulStore.Apart σ α key other)
    (mirrors : MirrorsWithin keys store map) {call : StoreCall α}
    (fits : call.Fits σ keys) :
    MirrorsWithin keys (call.perform store).1 (call.perform map).1 ∧
      (call.perform store).2.Agrees (call.perform map).2 := by
  obtain ⟨mirrored, within⟩ := mirrors
  cases call with
  | save checkpoint =>
      have listed : checkpoint.key ∈ keys := fits.listed _ rfl
      obtain ⟨next, saved, continued⟩ :=
        LawfulStore.save_eq mirrored (fits.storable _ rfl)
          fun key member => apart _ listed key (within member)
      have outcome : (save checkpoint).perform store =
          (next, .saved (.ok ())) := by
        rw [perform, saved]
      rw [outcome]
      refine ⟨⟨continued, fun key member => ?_⟩, rfl⟩
      rcases SortedMap.mem_keys_insert_iff.1 member with rfl | known
      · exact listed
      · exact within known
  | load key =>
      have outcome : (load (α := α) key).perform store =
          (store, .loaded (.ok (map.find? key))) := by
        rw [perform, LawfulStore.load_eq mirrored]
      rw [outcome]
      exact ⟨⟨mirrored, within⟩, rfl⟩
  | delete key =>
      have listed : key ∈ keys := fits.listed _ rfl
      obtain ⟨next, deleted, continued⟩ :=
        LawfulStore.delete_eq mirrored
          fun other member => apart _ listed other (within member)
      have outcome : (delete (α := α) key).perform store =
          (next, .deleted (.ok (map.contains key))) := by
        rw [perform, deleted]
      rw [outcome]
      refine ⟨⟨continued, fun other member => ?_⟩, rfl⟩
      exact within (SortedMap.mem_keys_erase_iff.1 member).2
  | list =>
      obtain ⟨infos, listed, same⟩ := LawfulStore.list_perm mirrored
      have outcome : (list (α := α)).perform store =
          (store, .listed (.ok infos)) := by
        rw [perform, listed]
      rw [outcome]
      exact ⟨⟨mirrored, within⟩, same⟩

/-- A lawful store and the map that it mirrors give the same answers. -/
theorem answers_agree
    (apart : ∀ key ∈ keys, ∀ other ∈ keys,
      LawfulStore.Apart σ α key other)
    (mirrors : MirrorsWithin keys store map) {calls : List (StoreCall α)}
    (fits : ∀ call ∈ calls, call.Fits σ keys) :
    List.Forall₂ StoreAnswer.Agrees (answers store calls)
        (answers map calls) ∧
      MirrorsWithin keys (performAll store calls)
        (performAll map calls) := by
  induction calls generalizing store map with
  | nil => exact ⟨.nil, mirrors⟩
  | cons call calls induction =>
      obtain ⟨first, others⟩ := List.forall_mem_cons.1 fits
      obtain ⟨next, agrees⟩ := perform_mirrors apart mirrors first
      obtain ⟨rest, final⟩ := induction next others
      exact ⟨.cons agrees rest, final⟩

end Lawful

section Directory

variable [Scalar α]

/-- The keys that some calls are about. -/
def keys (calls : List (StoreCall α)) : List ProfileKey :=
  calls.filterMap key?

theorem fits_of_mem [Checkpoint.Diagnosis] {calls : List (StoreCall α)}
    (legible : ∀ checkpoint, .save checkpoint ∈ calls → checkpoint.Legible)
    {call : StoreCall α} (member : call ∈ calls) :
    call.Fits Directory (keys calls) where
  listed _ about := List.mem_filterMap.2 ⟨call, member, about⟩
  storable checkpoint saves := legible checkpoint (saves ▸ member)

variable (path : String) (calls : List (StoreCall α))

/-- A directory that is used as a store only, from its creation on, answers
as a map in memory does: by what was saved last and has not been deleted.
Calls on one key do not change the answers for another one. -/
theorem directory_answers_as_memory [Checkpoint.Diagnosis]
    (legible : ∀ checkpoint, .save checkpoint ∈ calls → checkpoint.Legible)
    (separate : Digest.Separates
      ((keys calls).map fun key => key.toJson.render)) :
    let fresh : Directory := ⟨path, .absent⟩
    List.Forall₂ StoreAnswer.Agrees (answers fresh calls)
        (answers (∅ : MemoryStore α) calls) ∧
      ∀ earlier call later, calls = earlier ++ call :: later →
        Correct earlier call (call.perform (performAll fresh earlier)).2 ∧
          ∀ other ∈ calls, ∀ key, other.key? = some key →
            call.key? ≠ some key →
              (other.perform (performAll fresh (earlier ++ [call]))).2 =
                (other.perform (performAll fresh earlier)).2 := by
  intro fresh
  have apart := Directory.apart_of_separates separate
  have mirrors : MirrorsWithin (keys calls) fresh (∅ : MemoryStore α) :=
    ⟨Directory.Mirrors.empty rfl, nofun⟩
  have fits (call : StoreCall α) (member : call ∈ calls) :=
    fits_of_mem legible member
  have correct {earlier : List (StoreCall α)} (part : earlier ⊆ calls)
      {call : StoreCall α} (member : call ∈ calls) :
      Correct earlier call (call.perform (performAll fresh earlier)).2 := by
    have reached := (answers_agree apart mirrors fun call listed =>
      fits call (part listed)).2
    have agrees := (perform_mirrors apart reached (fits call member)).2
    exact (correct_memory earlier call).of_agrees agrees
  refine ⟨(answers_agree apart mirrors fits).1, ?_⟩
  rintro earlier call later split
  have before : earlier ⊆ calls := by simp [split]
  have after : earlier ++ [call] ⊆ calls := by
    have whole : calls = (earlier ++ [call]) ++ later := by simp [split]
    rw [whole]
    exact List.subset_append_left _ _
  refine ⟨correct before (by simp [split]), ?_⟩
  intro other member key about different
  refine Correct.unique about ?_ (correct before member)
    (correct after member)
  rw [lastSaved?_concat, keep_of_not_settles]
  exact fun settles => different (key?_of_settles settles)

/-- The key of a workload that is observed through the metrics API. -/
def metricsKey (name : String) : ProfileKey :=
  ⟨.workload ⟨"Deployment", name, "default", none⟩, [.metricsApi],
    [.distribution], .container⟩

/-- A checkpoint of a profile whose only container was never observed. -/
def unobserved (name : String) (seconds : Int) : Checkpoint Float :=
  ⟨metricsKey name, ⟨seconds, 0⟩, SortedMap.ofList [("app", ∅)]⟩

/-- What has been counted after samples of 0.12 and 0.31 processors. -/
def twoSamples : Estimator.State Float :=
  { mean := 0.215
    stdDev := 0.095
    varianceSum := 0.01805
    minValue := 0.12
    maxValue := 0.31
    quantiles := SortedMap.ofList [("p50", 0.125778925), ("p99", 0.31)]
    firstSampleStart := some ⟨40, 0⟩
    lastSampleStart := some ⟨100, 500000000⟩
    totalSamplesCount := 2
    histogram := ⟨.forResource .cpu, 2,
      [⟨9, 0.110265643, 1⟩, ⟨19, 0.305390039, 1⟩]⟩ }

/-- A checkpoint of a profile with one estimator. -/
def observed (name : String) (seconds : Int) : Checkpoint Float :=
  ⟨metricsKey name, ⟨seconds, 0⟩,
    SortedMap.ofList [("app", SortedMap.ofList [(.cpu, twoSamples)])]⟩

theorem stem_web_ne_db : Directory.stem (metricsKey "web") ≠
    Directory.stem (metricsKey "db") := by
  decide +kernel

def twoWorkloads : List (StoreCall Float) :=
  [.save (unobserved "web" 100), .save (observed "db" 100),
    .save (observed "web" 200), .delete (metricsKey "db"), .list]

theorem directory_keeps_second_save :
    let calls := twoWorkloads ++ [.load (metricsKey "web")]
    let fresh : Directory := ⟨"/checkpoints", .absent⟩
    (∀ checkpoint, .save checkpoint ∈ calls → checkpoint.Legible) ∧
      Digest.Separates ((keys calls).map fun key => key.toJson.render) ∧
      List.Forall₂ StoreAnswer.Agrees (answers fresh calls)
        (answers (∅ : MemoryStore Float) calls) ∧
      (perform (performAll fresh twoWorkloads)
        (.load (metricsKey "web") : StoreCall Float)).2 =
          .loaded (.ok (some (observed "web" 200))) := by
  intro calls fresh
  have each : ∀ checkpoint ∈ [unobserved "web" 100, observed "db" 100,
      observed "web" 200], checkpoint.Legible := by decide +kernel
  have legible : ∀ checkpoint, .save checkpoint ∈ calls →
      checkpoint.Legible := by
    intro checkpoint member
    refine each checkpoint ?_
    simpa [calls, twoWorkloads] using member
  have separate : Digest.Separates
      ((keys calls).map fun key => key.toJson.render) := by
    have listed : keys calls ⊆ [metricsKey "web", metricsKey "db"] := by
      decide
    exact (Digest.separates_pair stem_web_ne_db).mono
      (List.map_subset _ listed)
  obtain ⟨agree, correct⟩ :=
    directory_answers_as_memory "/checkpoints" calls legible separate
  have loaded := (correct twoWorkloads (.load (metricsKey "web")) [] rfl).1
  exact ⟨legible, separate, agree, loaded⟩

end Directory

end StoreCall

end UsageForecast
