import UsageForecast.Checkpoint.Turns
import UsageForecast.Proofs.CallOrder
import UsageForecast.Proofs.Lookup

/-!
# Turns at checkpoint files

However the steps of calls on a directory come one after another, two calls
that work on the same file are the same call.  This rests on the table: a lock
stays in it as long as a call refers to it that has not finished with the
file, so calls on one file refer to one lock.  A deletion takes a lock out of
the table only if no other call refers to it, and calls never keep each other
waiting for good.
-/

namespace UsageForecast.Turns

namespace Stage

/-- The lock to which a call refers. -/
def lock? : Stage → Option Nat
  | .arriving => none
  | .waiting lock => some lock
  | .working lock => some lock
  | .tidying lock => some lock
  | .leaving lock => some lock
  | .parting lock => some lock
  | .gone => none

/-- The lock that a call holds. -/
def held? : Stage → Option Nat
  | .working lock => some lock
  | .tidying lock => some lock
  | .leaving lock => some lock
  | _ => none

/-- The lock that the table has for the file of a call, as far as the call
can be sure of it. -/
def listed? : Stage → Option Nat
  | .waiting lock => some lock
  | .working lock => some lock
  | .tidying lock => some lock
  | _ => none

theorem lock?_of_listed? {stage : Stage} {lock : Nat}
    (listed : stage.listed? = some lock) : stage.lock? = some lock := by
  cases stage with
  | waiting _ => exact listed
  | working _ => exact listed
  | tidying _ => exact listed
  | _ => cases listed

end Stage

namespace Call

def refers (lock : Nat) (call : Call) : Bool := call.stage.lock? = some lock

def holds (lock : Nat) (call : Call) : Bool := call.stage.held? = some lock

theorem isWorking_iff {call : Call} :
    call.IsWorking ↔ ∃ lock, call.stage = .working lock := by
  unfold IsWorking
  cases call.stage <;> simp

end Call

namespace Locks

variable {locks : Locks} {stem other : String} {lock number : Nat}

/-- A call that arrives refers to the lock that the table then has. -/
theorem find?_refer_self (locks : Locks) (stem : String) :
    (locks.refer stem).1.table.find? stem = some (locks.refer stem).2 := by
  unfold refer
  cases found : locks.table.find? stem with
  | some lock => exact found
  | none => exact SortedMap.find?_insert_self _ _ _

theorem find?_refer_of_find? (found : locks.table.find? other = some number) :
    (locks.refer stem).1.table.find? other = some number := by
  unfold refer
  cases known : locks.table.find? stem with
  | some lock => exact found
  | none =>
      have different : other ≠ stem := by
        rintro rfl
        rw [known] at found
        cases found
      exact (SortedMap.find?_insert_of_ne _ _ different).trans found

theorem references_refer (locks : Locks) (stem : String) :
    (locks.refer stem).1.references =
      (locks.refer stem).2 :: locks.references := by
  unfold refer
  cases locks.table.find? stem <;> rfl

theorem held_refer (locks : Locks) (stem : String) :
    (locks.refer stem).1.held = locks.held := by
  unfold refer
  cases locks.table.find? stem <;> rfl

/-- The table loses at most the lock of the stem, and only if there is no more
than one reference to it beside that of the table. -/
theorem tidy_cases (locks : Locks) (stem : String) :
    locks.tidy stem = locks ∨
      ∃ lock, locks.table.find? stem = some lock ∧
        locks.references.count lock ≤ 1 ∧
        locks.tidy stem = { locks with table := locks.table.erase stem } := by
  unfold tidy
  cases found : locks.table.find? stem with
  | none => exact .inl rfl
  | some lock =>
      by_cases two : locks.count lock = 2
      · have listed : 0 < locks.table.values.count lock :=
          List.count_pos_iff.2 (SortedMap.mem_values_iff.2 ⟨stem, found⟩)
        rw [count] at two
        exact .inr ⟨lock, rfl, by omega, if_pos two⟩
      · exact .inl (if_neg two)

theorem references_tidy (locks : Locks) (stem : String) :
    (locks.tidy stem).references = locks.references := by
  rcases locks.tidy_cases stem with same | ⟨lock, -, -, same⟩ <;> rw [same]

theorem held_tidy (locks : Locks) (stem : String) :
    (locks.tidy stem).held = locks.held := by
  rcases locks.tidy_cases stem with same | ⟨lock, -, -, same⟩ <;> rw [same]

end Locks

/-- A call that holds a lock does not wait. -/
theorem isSome_step_of_held (locks : Locks) {call : Call} {lock : Nat}
    (held : call.stage.held? = some lock) : (step locks call).isSome := by
  unfold step
  cases stage : call.stage with
  | working _ => rfl
  | tidying _ => rfl
  | leaving _ => rfl
  | _ =>
      rw [stage] at held
      cases held

/-- What a step of a call can be. -/
inductive Moves (locks : Locks) (call : Call) : Locks → Stage → Prop where
  | arrive (arriving : call.stage = .arriving) :
      Moves locks call (locks.refer call.stem).1
        (.waiting (locks.refer call.stem).2)
  | acquire {lock : Nat} (waiting : call.stage = .waiting lock)
      (unheld : lock ∉ locks.held) :
      Moves locks call { locks with held := lock :: locks.held }
        (.working lock)
  | delete {lock : Nat} (working : call.stage = .working lock)
      (deletes : call.work = .delete) :
      Moves locks call locks (.tidying lock)
  | finish {lock : Nat} (working : call.stage = .working lock) :
      Moves locks call locks (.leaving lock)
  | tidy {lock : Nat} (tidying : call.stage = .tidying lock) :
      Moves locks call (locks.tidy call.stem) (.leaving lock)
  | release {lock : Nat} (leaving : call.stage = .leaving lock) :
      Moves locks call (locks.release lock) (.parting lock)
  | forget {lock : Nat} (parting : call.stage = .parting lock) :
      Moves locks call (locks.forget lock) .gone

theorem moves_of_step {locks after : Locks} {call next : Call}
    (stepped : step locks call = some (after, next)) :
    next = { call with stage := next.stage } ∧
      Moves locks call after next.stage := by
  unfold step at stepped
  cases stage : call.stage with
  | arriving =>
      simp only [stage, Option.some.injEq, Prod.mk.injEq] at stepped
      obtain ⟨rfl, rfl⟩ := stepped
      exact ⟨rfl, .arrive stage⟩
  | waiting lock =>
      simp only [stage, List.contains_iff_mem, Option.ite_none_left_eq_some,
        Option.some.injEq, Prod.mk.injEq] at stepped
      obtain ⟨unheld, rfl, rfl⟩ := stepped
      exact ⟨rfl, .acquire stage unheld⟩
  | working lock =>
      simp only [stage, Option.some.injEq, Prod.mk.injEq] at stepped
      obtain ⟨rfl, rfl⟩ := stepped
      refine ⟨rfl, ?_⟩
      by_cases tidies : (call.work == .delete && call.succeeds) = true
      · rw [if_pos tidies]
        exact .delete stage (beq_iff_eq.1 (Bool.and_eq_true_iff.1 tidies).1)
      · rw [if_neg tidies]
        exact .finish stage
  | tidying lock =>
      simp only [stage, Option.some.injEq, Prod.mk.injEq] at stepped
      obtain ⟨rfl, rfl⟩ := stepped
      exact ⟨rfl, .tidy stage⟩
  | leaving lock =>
      simp only [stage, Option.some.injEq, Prod.mk.injEq] at stepped
      obtain ⟨rfl, rfl⟩ := stepped
      exact ⟨rfl, .release stage⟩
  | parting lock =>
      simp only [stage, Option.some.injEq, Prod.mk.injEq] at stepped
      obtain ⟨rfl, rfl⟩ := stepped
      exact ⟨rfl, .forget stage⟩
  | gone =>
      rw [stage] at stepped
      cases stepped

/-- A lock that is taken from a list counts once less. -/
theorem count_erase_add {list : List Nat} {own lock : Nat}
    (present : own = lock → lock ∈ list) :
    (list.erase own).count lock + (decide (own = lock)).toNat =
      list.count lock := by
  by_cases same : own = lock
  · subst same
    have positive := List.count_pos_iff.2 (present rfl)
    rw [List.count_erase_self, decide_eq_true rfl, Bool.toNat_true]
    omega
  · rw [List.count_erase_of_ne (Ne.symm same), decide_eq_false same,
      Bool.toNat_false, Nat.add_zero]

section

variable {locks after : Locks} {call : Call} {stage : Stage}

/-- A step changes the references as it changes that of its call. -/
theorem Moves.count_references (moves : Moves locks call after stage)
    (lock : Nat) (referred : call.refers lock → lock ∈ locks.references) :
    after.references.count lock + (call.refers lock).toNat =
      locks.references.count lock +
        (({ call with stage } : Call).refers lock).toNat := by
  unfold Call.refers at referred ⊢
  cases moves with
  | arrive arriving =>
      rw [arriving, Locks.references_refer, List.count_cons]
      by_cases same : (locks.refer call.stem).2 = lock <;>
        simp [Stage.lock?, same]
  | acquire waiting unheld => rw [waiting]; rfl
  | delete working deletes => rw [working]; rfl
  | finish working => rw [working]; rfl
  | tidy tidying => rw [tidying, Locks.references_tidy]; rfl
  | release leaving => rw [leaving]; rfl
  | @forget own parting =>
      rw [parting] at referred ⊢
      have counted : (locks.references.erase own).count lock + _ = _ :=
        count_erase_add fun same => referred (by simp [Stage.lock?, same])
      simpa [Locks.forget, Stage.lock?] using counted

/-- A step changes the held locks as it changes that of its call. -/
theorem Moves.count_held (moves : Moves locks call after stage)
    (lock : Nat) (held : call.holds lock → lock ∈ locks.held) :
    after.held.count lock + (call.holds lock).toNat =
      locks.held.count lock +
        (({ call with stage } : Call).holds lock).toNat := by
  unfold Call.holds at held ⊢
  cases moves with
  | arrive arriving => rw [arriving, Locks.held_refer]; rfl
  | @acquire own waiting unheld =>
      rw [waiting, List.count_cons]
      by_cases same : own = lock <;> simp [Stage.held?, same]
  | delete working deletes => rw [working]; rfl
  | finish working => rw [working]; rfl
  | tidy tidying => rw [tidying, Locks.held_tidy]; rfl
  | @release own leaving =>
      rw [leaving] at held ⊢
      have counted : (locks.held.erase own).count lock + _ = _ :=
        count_erase_add fun same => held (by simp [Stage.held?, same])
      simpa [Locks.release, Stage.held?] using counted
  | forget parting => rw [parting]; rfl

/-- No lock is held twice, since only a lock that nobody holds is acquired. -/
theorem Moves.exclusive (moves : Moves locks call after stage)
    (exclusive : locks.held.Nodup) : after.held.Nodup := by
  cases moves with
  | arrive arriving => rwa [Locks.held_refer]
  | acquire waiting unheld => exact List.nodup_cons.2 ⟨unheld, exclusive⟩
  | delete working deletes => exact exclusive
  | finish working => exact exclusive
  | tidy tidying => rwa [Locks.held_tidy]
  | release leaving => exact exclusive.erase _
  | forget parting => exact exclusive

/-- A step leaves what the table has, unless it takes out the lock of its own
file, to which then no more than one call refers. -/
theorem Moves.find?_table (moves : Moves locks call after stage)
    {stem : String} {lock : Nat}
    (found : locks.table.find? stem = some lock) :
    after.table.find? stem = some lock ∨
      (∃ own, call.stage = .tidying own) ∧ call.stem = stem ∧
        locks.references.count lock ≤ 1 := by
  cases moves with
  | arrive arriving => exact .inl (Locks.find?_refer_of_find? found)
  | acquire waiting unheld => exact .inl found
  | delete working deletes => exact .inl found
  | finish working => exact .inl found
  | @tidy own tidying =>
      rcases locks.tidy_cases call.stem with
        same | ⟨number, known, single, same⟩
      · rw [same]
        exact .inl found
      · rw [same]
        change (locks.table.erase call.stem).find? stem = _ ∨ _
        rw [SortedMap.find?_erase]
        by_cases own : stem = call.stem
        · subst own
          obtain rfl := Option.some.inj (known.symm.trans found)
          exact .inr ⟨⟨_, tidying⟩, rfl, single⟩
        · rw [if_neg own]
          exact .inl found
  | release leaving => exact .inl found
  | forget parting => exact .inl found

/-- A call knows the lock that the table has as long as it has not finished
with its file. -/
theorem Moves.listed (moves : Moves locks call after stage) {lock : Nat}
    (listed : stage.listed? = some lock) :
    call.stage.listed? = some lock ∧ after.table = locks.table ∨
      after.table.find? call.stem = some lock := by
  cases moves with
  | arrive arriving =>
      refine .inr ?_
      rw [Locks.find?_refer_self]
      exact listed
  | acquire waiting unheld =>
      rw [waiting]
      exact .inl ⟨listed, rfl⟩
  | delete working deletes =>
      rw [working]
      exact .inl ⟨listed, rfl⟩
  | finish working => cases listed
  | tidy tidying => cases listed
  | release leaving => cases listed
  | forget parting => cases listed

end

/-- What holds at all times: the references and the held locks are those of
the calls, no lock is held twice, and a call that has not finished with its
file refers to the lock that the table has for it. -/
structure Orderly (state : Interleaving Locks Call) : Prop where
  referred : ∀ lock, state.shared.references.count lock =
    state.calls.countP (Call.refers lock)
  holding : ∀ lock, state.shared.held.count lock =
    state.calls.countP (Call.holds lock)
  exclusive : state.shared.held.Nodup
  listed : ∀ (place : Nat) (call : Call) (lock : Nat),
    state.calls[place]? = some call → call.stage.listed? = some lock →
      state.shared.table.find? call.stem = some lock
  deleting : ∀ (place : Nat) (call : Call) (lock : Nat),
    state.calls[place]? = some call → call.stage = .tidying lock →
      call.work = .delete

/-- Of the calls that pass a test, no two places have one if there is no more
than one of them. -/
theorem place_eq_of_single {calls : List Call} {test : Call → Bool}
    (fails : ∀ call : Call, test { call with stage := .gone } = false)
    (single : calls.countP test ≤ 1) {first second : Nat}
    {left right : Call} (firstCalled : calls[first]? = some left)
    (secondCalled : calls[second]? = some right)
    (leftPasses : test left = true) (rightPasses : test right = true) :
    first = second := by
  by_contra different
  have member : right ∈ calls.set first { left with stage := .gone } :=
    List.mem_of_getElem?
      ((List.getElem?_set_ne different).trans secondCalled)
  have same := Interleaving.eq_next_of_single single firstCalled leftPasses
    member rightPasses
  rw [same, fails] at rightPasses
  cases rightPasses

/-- A number of calls that changes as one call changes is still that of the
calls. -/
theorem counts_set {calls : List Call} {position : Nat} {call next : Call}
    (called : calls[position]? = some call) {test : Call → Bool}
    {before after : Nat} (counts : before = calls.countP test)
    (changed : after + (test call).toNat = before + (test next).toNat) :
    after = (calls.set position next).countP test := by
  have counted := Interleaving.countP_set_add called next test
  omega

/-- After a step, a place has the call that took it or the call that it had. -/
theorem next_or_kept {calls : List Call} {position place : Nat}
    {call next other : Call} (called : calls[position]? = some call)
    (found : (calls.set position next)[place]? = some other) :
    position = place ∧ next = other ∨
      position ≠ place ∧ calls[place]? = some other := by
  by_cases own : position = place
  · subst own
    rw [List.getElem?_set_self (List.getElem?_eq_some_iff.1 called).1]
      at found
    exact .inl ⟨rfl, Option.some.inj found⟩
  · rw [List.getElem?_set_ne own] at found
    exact .inr ⟨own, found⟩

section

variable {state : Interleaving Locks Call} {position place : Nat}
  {call other : Call} {lock : Nat}

theorem Orderly.mem_references_iff (orderly : Orderly state) :
    lock ∈ state.shared.references ↔
      ∃ call ∈ state.calls, call.refers lock = true := by
  rw [← List.count_pos_iff, orderly.referred, List.countP_pos_iff]

theorem Orderly.mem_held_iff (orderly : Orderly state) :
    lock ∈ state.shared.held ↔
      ∃ call ∈ state.calls, call.holds lock = true := by
  rw [← List.count_pos_iff, orderly.holding, List.countP_pos_iff]

theorem Orderly.place_eq_of_held (orderly : Orderly state)
    (called : state.calls[position]? = some call)
    (otherCalled : state.calls[place]? = some other)
    (held : call.stage.held? = some lock)
    (otherHeld : other.stage.held? = some lock) : position = place := by
  have single : state.calls.countP (Call.holds lock) ≤ 1 := by
    rw [← orderly.holding]
    exact List.nodup_iff_count_le_one.1 orderly.exclusive lock
  exact place_eq_of_single (fun _ => rfl) single called otherCalled
    (decide_eq_true held) (decide_eq_true otherHeld)

/-- A call that takes a lock out of the table is the only one that refers to
it. -/
theorem Orderly.place_eq_of_referred (orderly : Orderly state)
    (called : state.calls[position]? = some call)
    (otherCalled : state.calls[place]? = some other)
    (listed : call.stage.listed? = some lock)
    (single : state.shared.references.count lock ≤ 1)
    (otherRefers : other.stage.lock? = some lock) : position = place := by
  rw [orderly.referred] at single
  exact place_eq_of_single (fun _ => rfl) single called otherCalled
    (decide_eq_true (Stage.lock?_of_listed? listed))
    (decide_eq_true otherRefers)

/-- What the table has for the file of a call stays until the call has
finished with the file, whichever call takes a step. -/
theorem Orderly.find?_table_step (orderly : Orderly state)
    {after : Locks} {stage : Stage}
    (called : state.calls[position]? = some call)
    (moves : Moves state.shared call after stage)
    (different : position ≠ place)
    (otherCalled : state.calls[place]? = some other)
    (listed : other.stage.listed? = some lock) :
    after.table.find? other.stem = some lock := by
  have known := orderly.listed place other lock otherCalled listed
  rcases moves.find?_table known with kept | ⟨⟨own, tidying⟩, same, single⟩
  · exact kept
  · -- Both calls refer to the lock that is to be taken out.
    have ownListed : call.stage.listed? = some own := by rw [tidying]; rfl
    have ownKnown := orderly.listed position call own called ownListed
    rw [same, known] at ownKnown
    obtain rfl := Option.some.inj ownKnown
    exact absurd (orderly.place_eq_of_referred called otherCalled ownListed
      single (Stage.lock?_of_listed? listed)) different

theorem Orderly.stepped (orderly : Orderly state) {after : Locks} {next : Call}
    (called : state.calls[position]? = some call)
    (stepped : step state.shared call = some (after, next)) :
    Orderly ⟨after, state.calls.set position next⟩ := by
  obtain ⟨same, moves⟩ := moves_of_step stepped
  have member := List.mem_of_getElem? called
  refine ⟨?_, ?_, moves.exclusive orderly.exclusive, ?_, ?_⟩
  · intro lock
    refine counts_set called (orderly.referred lock) ?_
    have changed := moves.count_references lock fun refers =>
      orderly.mem_references_iff.2 ⟨call, member, refers⟩
    rwa [← same] at changed
  · intro lock
    refine counts_set called (orderly.holding lock) ?_
    have changed := moves.count_held lock fun holds =>
      orderly.mem_held_iff.2 ⟨call, member, holds⟩
    rwa [← same] at changed
  · intro place other lock found listed
    rcases next_or_kept called found with ⟨-, rfl⟩ | ⟨different, otherCalled⟩
    · rw [same]
      rcases moves.listed listed with ⟨earlier, table⟩ | known
      · rw [table]
        exact orderly.listed position call lock called earlier
      · exact known
    · exact orderly.find?_table_step called moves different otherCalled listed
  · intro place other lock found tidying
    rcases next_or_kept called found with ⟨-, rfl⟩ | ⟨-, otherCalled⟩
    · rw [tidying] at moves
      rw [same]
      cases moves with
      | delete working deletes => exact deletes
    · exact orderly.deleting place other lock otherCalled tidying

end

theorem orderly_start {calls : List Call}
    (arriving : ∀ call ∈ calls, call.stage = .arriving) :
    Orderly ⟨.initial, calls⟩ where
  referred lock := by
    refine (List.countP_eq_zero.2 fun call member => ?_).symm
    simp [Call.refers, arriving call member, Stage.lock?]
  holding lock := by
    refine (List.countP_eq_zero.2 fun call member => ?_).symm
    simp [Call.holds, arriving call member, Stage.held?]
  exclusive := List.nodup_nil
  listed place call lock called listed := by
    rw [arriving call (List.mem_of_getElem? called)] at listed
    cases listed
  deleting place call lock called tidying := by
    rw [arriving call (List.mem_of_getElem? called)] at tidying
    cases tidying

theorem orderly_run {calls : List Call}
    (arriving : ∀ call ∈ calls, call.stage = .arriving)
    (schedule : List Nat) :
    Orderly ((⟨.initial, calls⟩ : Interleaving Locks Call).run step
      schedule) :=
  Interleaving.run_invariant (fun state _ => Orderly state)
    (fun _ _ _ _ _ _ orderly called step => orderly.stepped called step)
    (orderly_start arriving) schedule

/-- Whoever waits for a lock waits for a call that can go on. -/
theorem Orderly.gone_of_settled {state : Interleaving Locks Call}
    (orderly : Orderly state) (settled : state.Settled step) :
    ∀ call ∈ state.calls, call.stage = .gone := by
  intro call member
  have stuck := settled call member
  cases stage : call.stage with
  | gone => rfl
  | waiting lock =>
      -- Only a held lock keeps a call waiting, and its holder can go on.
      have held : lock ∈ state.shared.held := by
        by_contra unheld
        simp [step, stage, unheld] at stuck
      obtain ⟨holder, present, holds⟩ := orderly.mem_held_iff.1 held
      have waits := settled holder present
      rw [Option.isNone_iff_eq_none] at waits
      have goes := isSome_step_of_held state.shared (of_decide_eq_true holds)
      rw [waits] at goes
      cases goes
  | _ => simp [step, stage] at stuck

/-- At any time, two calls that work on the same file are the same call; an
entry leaves the table only by a deletion whose lock it is and to which no
other call refers; and if no call can take a step, all have returned. -/
theorem turns_exclusive (calls : List Call)
    (arriving : ∀ call ∈ calls, call.stage = .arriving)
    (schedule : List Nat) :
    let state :=
      (⟨.initial, calls⟩ : Interleaving Locks Call).run step schedule
    (∀ (first second : Nat) (left right : Call),
      state.calls[first]? = some left → state.calls[second]? = some right →
        left.IsWorking → right.IsWorking → left.stem = right.stem →
          first = second) ∧
    (∀ (position : Nat) (call next : Call) (after : Locks) (stem : String)
        (lock : Nat),
      state.calls[position]? = some call →
      step state.shared call = some (after, next) →
      state.shared.table.find? stem = some lock →
      after.table.find? stem ≠ some lock →
        call.work = .delete ∧ call.stem = stem ∧
          call.stage = .tidying lock ∧
          ∀ (other : Nat) (another : Call), other ≠ position →
            state.calls[other]? = some another →
              another.stage.lock? ≠ some lock) ∧
    (state.Settled step → ∀ call ∈ state.calls, call.stage = .gone) := by
  intro state
  have orderly : Orderly state := orderly_run arriving schedule
  refine ⟨?_, ?_, orderly.gone_of_settled⟩
  · intro first second left right called otherCalled leftWorks rightWorks same
    obtain ⟨lock, leftStage⟩ := Call.isWorking_iff.1 leftWorks
    obtain ⟨other, rightStage⟩ := Call.isWorking_iff.1 rightWorks
    -- The table has one lock for the file, and both calls hold it.
    have leftKnown := orderly.listed first left lock called
      (by rw [leftStage]; rfl)
    have rightKnown := orderly.listed second right other otherCalled
      (by rw [rightStage]; rfl)
    rw [same, rightKnown] at leftKnown
    obtain rfl := Option.some.inj leftKnown
    exact orderly.place_eq_of_held called otherCalled
      (by rw [leftStage]; rfl) (by rw [rightStage]; rfl)
  · intro position call next after stem lock called stepped found lost
    obtain ⟨⟨own, tidying⟩, rfl, single⟩ :=
      ((moves_of_step stepped).2.find?_table found).resolve_left lost
    have listed : call.stage.listed? = some own := by rw [tidying]; rfl
    have known := orderly.listed position call own called listed
    obtain rfl := Option.some.inj (known.symm.trans found)
    refine ⟨orderly.deleting position call own called tidying, rfl, tidying,
      ?_⟩
    intro other another different otherCalled refers
    exact different (orderly.place_eq_of_referred called otherCalled listed
      single refers).symm

section Witness

/-- A deletion and a save of one file and a load of another one. -/
def crowd : List Call :=
  [⟨.delete, "web", true, .arriving⟩, ⟨.save, "web", true, .arriving⟩,
    ⟨.load, "api", true, .arriving⟩]

def crowdAfter (schedule : List Nat) : Interleaving Locks Call :=
  (⟨.initial, crowd⟩ : Interleaving Locks Call).run step schedule

/-- The save waits while the other calls work.  If it comes once the file has
been deleted, the lock goes and the save gets another one. -/
theorem crowd_takes_turns :
    (∀ call ∈ crowd, call.stage = .arriving) ∧
    (crowdAfter [0, 0, 2, 2, 1, 1]).calls.map Call.stage =
      [.working 0, .waiting 0, .working 1] ∧
    (∀ place call,
      (crowdAfter [0, 0, 2, 2, 1, 1]).calls[place]? = some call →
        call.IsWorking → call.stem = "web" → place = 0) ∧
    (crowdAfter [0, 0, 2, 0]).shared.table.find? "web" = some 0 ∧
    (crowdAfter [0, 0, 2, 0, 0]).shared.table.find? "web" = none ∧
    (∀ other call, other ≠ 0 →
      (crowdAfter [0, 0, 2, 0]).calls[other]? = some call →
        call.stage.lock? ≠ some 0) ∧
    (crowdAfter [0, 0, 2, 0, 0, 1, 1]).calls.map Call.stage =
      [.leaving 0, .working 2, .waiting 1] ∧
    ∀ call ∈ (crowdAfter (List.replicate 6 0 ++ List.replicate 6 1 ++
      List.replicate 6 2)).calls, call.stage = .gone := by
  have arriving : ∀ call ∈ crowd, call.stage = .arriving := by decide
  refine ⟨arriving, by decide, ?_, by decide, by decide, ?_, by decide, ?_⟩
  · intro place call called works same
    exact (turns_exclusive crowd arriving [0, 0, 2, 2, 1, 1]).1 place 0 call
      ⟨.delete, "web", true, .working 0⟩ called rfl works trivial same
  · exact ((turns_exclusive crowd arriving [0, 0, 2, 0]).2.1 0
      ⟨.delete, "web", true, .tidying 0⟩ _ _ "web" 0 rfl rfl rfl
      (by decide)).2.2.2
  · refine (turns_exclusive crowd arriving _).2.2 ?_
    unfold Interleaving.Settled
    decide

end Witness

end UsageForecast.Turns
