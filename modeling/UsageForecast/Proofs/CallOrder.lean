import UsageForecast.Interleaving

/-!
# The order of steps

A run of calls under a schedule takes a list of steps, one for each turn of a
call that neither waits nor has returned.  What holds at the beginning and is
kept by every single step holds after the run, also if it speaks about the
steps taken so far.  A call that can take no step any more makes no difference
to the others.
-/

namespace UsageForecast.Interleaving

variable {σ κ : Type} (step : σ → κ → Option (σ × κ))

/-- The call at a position, if it can take a step. -/
def ready? (state : Interleaving σ κ) (position : Nat) : Option κ :=
  state.calls[position]?.filter fun call =>
    (step state.shared call).isSome

/-- The steps of a run: each call as it was before its step. -/
def taken (state : Interleaving σ κ) : List Nat → List κ
  | [] => []
  | position :: schedule =>
      (state.ready? step position).toList ++
        (state.advance step position).taken schedule

variable {step}

/-- A turn passes without a step, or the call takes its step. -/
theorem advance_cases (state : Interleaving σ κ) (position : Nat) :
    (state.ready? step position = none ∧
      state.advance step position = state) ∨
    ∃ call shared next, state.ready? step position = some call ∧
      state.calls[position]? = some call ∧
      step state.shared call = some (shared, next) ∧
      state.advance step position =
        ⟨shared, state.calls.set position next⟩ := by
  unfold ready? advance
  cases called : state.calls[position]? with
  | none => exact .inl ⟨rfl, rfl⟩
  | some call =>
      cases stepped : step state.shared call with
      | none => exact .inl ⟨by simp [stepped], by simp [stepped]⟩
      | some outcome =>
          obtain ⟨shared, next⟩ := outcome
          exact .inr ⟨call, shared, next, by simp [stepped], rfl, stepped,
            by simp [stepped]⟩

/-- What every step keeps holds after a run. -/
theorem run_invariant (property : Interleaving σ κ → List κ → Prop)
    (kept : ∀ (state : Interleaving σ κ) (position : Nat) (done : List κ)
      (call : κ) (shared : σ) (next : κ),
      property state done → state.calls[position]? = some call →
        step state.shared call = some (shared, next) →
          property ⟨shared, state.calls.set position next⟩ (done ++ [call]))
    {start : Interleaving σ κ} (initially : property start [])
    (schedule : List Nat) :
    property (start.run step schedule) (start.taken step schedule) := by
  -- The steps before the rest of a schedule come first in the list.
  suffices general : ∀ (done : List κ) (state : Interleaving σ κ),
      property state done →
        property (state.run step schedule)
          (done ++ state.taken step schedule) from
    general [] start initially
  induction schedule with
  | nil =>
      intro done state holds
      rwa [taken, List.append_nil]
  | cons position schedule induction =>
      intro done state holds
      rw [taken, ← List.append_assoc]
      refine induction _ _ ?_
      rcases advance_cases state position with
        ⟨waits, same⟩ | ⟨call, shared, next, ready, called, stepped, moved⟩
      · rw [waits, same, Option.toList_none, List.append_nil]
        exact holds
      · rw [ready, moved, Option.toList_some]
        exact kept state position done call shared next holds called stepped

/-- A call keeps its place while another one takes a step. -/
theorem mem_set_of_ne {calls : List κ} {position : Nat}
    {call other next : κ} (called : calls[position]? = some call)
    (member : other ∈ calls) (different : other ≠ call) :
    other ∈ calls.set position next := by
  obtain ⟨place, held⟩ := List.mem_iff_getElem?.1 member
  refine List.mem_iff_getElem?.2 ⟨place, ?_⟩
  rw [List.getElem?_set_ne, held]
  rintro rfl
  rw [called] at held
  exact different (Option.some.inj held).symm

theorem mem_set_self {calls : List κ} {position : Nat} {call : κ}
    (called : calls[position]? = some call) (next : κ) :
    next ∈ calls.set position next := by
  refine List.mem_iff_getElem?.2 ⟨position, ?_⟩
  exact List.getElem?_set_self (List.getElem?_eq_some_iff.1 called).1

/-- Some call has a property, and keeps it in its step. -/
theorem exists_mem_set {calls : List κ} {position : Nat} {call next : κ}
    {property : κ → Prop} (called : calls[position]? = some call)
    (implied : property call → property next) :
    (∃ other ∈ calls, property other) →
      ∃ other ∈ calls.set position next, property other := by
  rintro ⟨other, member, holds⟩
  by_cases same : other = call
  · exact ⟨next, mem_set_self called next, implied (same ▸ holds)⟩
  · exact ⟨other, mem_set_of_ne called member same, holds⟩

/-- A step changes the number of calls that pass a test by what it changes in
its own call. -/
theorem countP_set_add {calls : List κ} {position : Nat} {call : κ}
    (called : calls[position]? = some call) (next : κ) (test : κ → Bool) :
    (calls.set position next).countP test + (test call).toNat =
      calls.countP test + (test next).toNat := by
  obtain ⟨bound, rfl⟩ := List.getElem?_eq_some_iff.1 called
  have counted : test calls[position] = true → 0 < calls.countP test :=
    fun passes =>
      List.countP_pos_iff.2 ⟨_, List.getElem_mem bound, passes⟩
  rw [List.countP_set bound]
  cases passed : test calls[position] with
  | false => cases test next <;> simp
  | true =>
      have positive := counted passed
      cases test next <;> simp <;> omega

/-- A call that takes the place of the only one that passes a test is the only
one that may pass it afterwards. -/
theorem eq_next_of_single {calls : List κ} {position : Nat}
    {call next other : κ} {test : κ → Bool}
    (single : calls.countP test ≤ 1)
    (called : calls[position]? = some call) (passed : test call = true)
    (member : other ∈ calls.set position next)
    (passes : test other = true) : other = next := by
  induction calls generalizing position with
  | nil => cases called
  | cons first rest induction =>
      cases position with
      | zero =>
          cases called
          rw [List.countP_cons_of_pos passed] at single
          rcases List.mem_cons.1 member with new | later
          · exact new
          · have counted := List.countP_pos_iff.2 ⟨other, later, passes⟩
            omega
      | succ position =>
          have inRest : rest[position]? = some call := called
          rcases List.mem_cons.1 member with rfl | later
          · have counted := List.countP_pos_iff.2
              ⟨call, List.mem_of_getElem? inRest, passed⟩
            rw [List.countP_cons_of_pos passes] at single
            omega
          · have fewer : rest.countP test ≤ (first :: rest).countP test :=
              (List.sublist_cons_self first rest).countP_le
            exact induction (Nat.le_trans fewer single) inRest later

/-- Two states that differ at most in the call at one position. -/
structure ButFor (position : Nat) (left right : Interleaving σ κ) :
    Prop where
  shared : left.shared = right.shared
  others : ∀ other, other ≠ position →
    left.calls[other]? = right.calls[other]?

theorem ButFor.advance {position other : Nat} {left right : Interleaving σ κ}
    (same : ButFor position left right) (different : other ≠ position) :
    ButFor position (left.advance step other)
      (right.advance step other) := by
  have called := same.others other different
  unfold Interleaving.advance
  rw [← called, ← same.shared]
  cases found : left.calls[other]? with
  | none => exact same
  | some call =>
      cases stepped : step left.shared call with
      | none =>
          simp only [stepped]
          exact same
      | some outcome =>
          simp only [stepped]
          refine ⟨rfl, fun another apart => ?_⟩
          simp only [List.getElem?_set', same.others another apart]

theorem getElem?_advance_of_ne (state : Interleaving σ κ)
    {position other : Nat} (different : other ≠ position) :
    (state.advance step other).calls[position]? =
      state.calls[position]? := by
  unfold Interleaving.advance
  split
  next => rfl
  next =>
    split
    next => rfl
    next => exact List.getElem?_set_ne different

/-- A call that can take no step any more might as well get no turns. -/
theorem run_filter_of_stuck {position : Nat} {call : κ}
    (stuck : ∀ shared, step shared call = none)
    {left right : Interleaving σ κ} (same : ButFor position left right)
    (called : left.calls[position]? = some call) (schedule : List Nat) :
    (left.run step schedule).shared =
      (right.run step (schedule.filter (· != position))).shared := by
  induction schedule generalizing left right with
  | nil => exact same.shared
  | cons turn schedule induction =>
      -- A turn of the call itself passes, and any other turn keeps the states
      -- alike.
      by_cases own : turn = position
      · have waits : left.advance step turn = left := by
          unfold Interleaving.advance
          rw [own, called]
          simp only [stuck]
        rw [List.filter_cons_of_neg (by simp [own])]
        change ((left.advance step turn).run step schedule).shared = _
        rw [waits]
        exact induction same called
      · rw [List.filter_cons_of_pos (by simp [own])]
        exact induction (same.advance own)
          ((getElem?_advance_of_ne left own).trans called)

end UsageForecast.Interleaving
