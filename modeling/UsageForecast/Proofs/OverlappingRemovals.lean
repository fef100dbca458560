import UsageForecast.Manager.Interleaving
import UsageForecast.Proofs.CallOrder
import UsageForecast.Proofs.RepeatedCycles

/-!
# Removals during a round

A round looks at the registry before it keeps the result of a profiler, and
once more afterwards.  So whatever the order of steps, a round and removals of
its profile end with a result exactly if the profile is still registered, and
then with the one that its profiler has published.  The second look does not
help against registrations, and a registration that finds a profiler does not
look again at all.
-/

namespace UsageForecast.Manager

variable {α : Type}

namespace Call

/-- Whether a call is a round, at whatever step. -/
def rounds : Call α → Bool
  | .round => true
  | .profiling _ => true
  | .checking _ => true
  | .copying _ => true
  | .keeping .. => true
  | .rechecking _ => true
  | _ => false

/-- A round or a removal that has not begun. -/
def Waits : Call α → Prop
  | .round => True
  | .unregister => True
  | _ => False

/-- A call that can come of a round or a removal if a profiler may have been
registered at first. -/
def Concerns (origin : Option Nat) : Call α → Prop
  | .round => True
  | .profiling number => origin = some number
  | .checking number => origin = some number
  | .copying number => origin = some number
  | .keeping number _ => origin = some number
  | .rechecking number => origin = some number
  | .unregister => True
  | .erasing => True
  | .returned => True
  | _ => False

theorem Waits.concerns {call : Call α} (waits : call.Waits)
    (origin : Option Nat) : call.Concerns origin := by
  cases call with
  | round => trivial
  | unregister => trivial
  | _ => exact waits.elim

/-- Whether a call is about to keep the result of a profiler. -/
def Keeps (number : Nat) : Call α → Prop
  | .checking other => other = number
  | .copying other => other = number
  | .keeping other _ => other = number
  | _ => False

/-- Whether a call is about to erase the result of a profile that is no longer
registered. -/
def Erases : Call α → Prop
  | .erasing => True
  | .rechecking _ => True
  | _ => False

end Call

namespace Slot

/-- What holds while removals and a round are under way. -/
structure Tended (origin : Option Nat)
    (state : Interleaving (Slot α) (Call α)) : Prop where
  single : state.calls.countP Call.rounds ≤ 1
  concerned : ∀ call ∈ state.calls, call.Concerns origin
  registered : state.shared.registered = none ∨
    state.shared.registered = origin
  erasing : .erasing ∈ state.calls → state.shared.registered = none
  keeping : ∀ number result, .keeping number result ∈ state.calls →
    result = state.shared.published number
  present : ∀ number, state.shared.registered = some number →
    state.shared.entry = some (state.shared.published number) ∨
      ∃ call ∈ state.calls, call.Keeps number
  absent : state.shared.registered = none →
    state.shared.entry = none ∨ ∃ call ∈ state.calls, call.Erases

/-- A round and removals that have not begun. -/
structure Fresh (start : Interleaving (Slot α) (Call α)) : Prop where
  waits : ∀ call ∈ start.calls, call.Waits
  single : start.calls.countP Call.rounds ≤ 1
  consistent : start.shared.Consistent

theorem Fresh.tended {start : Interleaving (Slot α) (Call α)}
    (fresh : Fresh start) : Tended start.shared.registered start where
  single := fresh.single
  concerned call member := (fresh.waits call member).concerns _
  registered := .inr rfl
  erasing member := (fresh.waits _ member).elim
  keeping number result member := (fresh.waits _ member).elim
  present number known := by
    have entry := fresh.consistent
    rw [Consistent, known] at entry
    exact .inl entry
  absent gone := by
    have entry := fresh.consistent
    rw [Consistent, gone] at entry
    exact .inl entry

section

variable {origin : Option Nat} {state : Interleaving (Slot α) (Call α)}
  {position : Nat} {call next : Call α}

/-- A step of a round does not begin another one. -/
theorem Tended.single_step (tended : Tended origin state)
    (called : state.calls[position]? = some call)
    (fewer : next.rounds = true → call.rounds = true) :
    (state.calls.set position next).countP Call.rounds ≤ 1 := by
  have counted := Interleaving.countP_set_add called next Call.rounds
  have single := tended.single
  cases rounds : next.rounds with
  | true =>
      rw [rounds, fewer rounds] at counted
      omega
  | false =>
      rw [rounds, Bool.toNat_false] at counted
      omega

theorem Tended.concerned_step (tended : Tended origin state)
    (concerns : next.Concerns origin) :
    ∀ call ∈ state.calls.set position next, call.Concerns origin := by
  intro call member
  rcases List.mem_or_eq_of_mem_set member with earlier | rfl
  · exact tended.concerned call earlier
  · exact concerns

theorem Tended.erasing_step (tended : Tended origin state)
    (different : next ≠ .erasing)
    (member : .erasing ∈ state.calls.set position next) :
    state.shared.registered = none := by
  rcases List.mem_or_eq_of_mem_set member with earlier | new
  · exact tended.erasing earlier
  · exact absurd new.symm different

theorem Tended.keeping_step (tended : Tended origin state)
    (kept : ∀ number result, next = .keeping number result →
      result = state.shared.published number) (number : Nat)
    (result : ProfileResult α)
    (member : .keeping number result ∈ state.calls.set position next) :
    result = state.shared.published number := by
  rcases List.mem_or_eq_of_mem_set member with earlier | new
  · exact tended.keeping number result earlier
  · exact kept number result new.symm

/-- A step that leaves the slot as it is. -/
theorem Tended.pass (tended : Tended origin state)
    (called : state.calls[position]? = some call)
    (fewer : next.rounds = true → call.rounds = true)
    (concerns : next.Concerns origin) (different : next ≠ .erasing)
    (kept : ∀ number result, next = .keeping number result →
      result = state.shared.published number)
    (keeps : ∀ number, state.shared.registered = some number →
      call.Keeps number → next.Keeps number)
    (erases : state.shared.registered = none → call.Erases → next.Erases) :
    Tended origin ⟨state.shared, state.calls.set position next⟩ where
  single := tended.single_step called fewer
  concerned := tended.concerned_step concerns
  registered := tended.registered
  erasing := tended.erasing_step different
  keeping := tended.keeping_step kept
  present number known :=
    (tended.present number known).imp_right
      (Interleaving.exists_mem_set called (keeps number known))
  absent gone :=
    (tended.absent gone).imp_right
      (Interleaving.exists_mem_set called (erases gone))

/-- A call erases the result of a profile that is no longer registered. -/
theorem Tended.erase (tended : Tended origin state)
    (called : state.calls[position]? = some call)
    (gone : state.shared.registered = none) :
    Tended origin
      ⟨{ state.shared with entry := none },
        state.calls.set position .returned⟩ where
  single := tended.single_step called nofun
  concerned := tended.concerned_step trivial
  registered := .inl gone
  erasing _ := gone
  keeping := tended.keeping_step nofun
  present number known := by
    rw [gone] at known
    cases known
  absent _ := .inl rfl

theorem Tended.gone_of_ne (tended : Tended origin state) {number : Nat}
    (known : origin = some number)
    (different : state.shared.registered ≠ some number) :
    state.shared.registered = none := by
  refine tended.registered.resolve_right ?_
  intro same
  exact different (same.trans known)

theorem Tended.number_eq (tended : Tended origin state)
    {number other : Nat} (known : origin = some number)
    (registered : state.shared.registered = some other) :
    number = other := by
  rcases tended.registered with gone | same
  · rw [gone] at registered
    cases registered
  · exact Option.some.inj (known.symm.trans (same.symm.trans registered))

variable [Analytic α] {create : Spec α → Profiler α}
  {cycle : Profiler α → Profiler α} {slot : Slot α}

theorem Tended.step (tended : Tended origin state)
    (called : state.calls[position]? = some call)
    (stepped : Slot.step create cycle state.shared call =
      some (slot, next)) :
    Tended origin ⟨slot, state.calls.set position next⟩ := by
  have member := List.mem_of_getElem? called
  have concerns := tended.concerned call member
  cases call with
  | unregister =>
      simp only [Slot.step] at stepped
      split at stepped
      next number known =>
        cases stepped
        exact {
          single := tended.single_step called nofun
          concerned := tended.concerned_step trivial
          registered := .inl rfl
          erasing := fun _ => rfl
          keeping := tended.keeping_step nofun
          present := nofun
          absent := fun _ => .inr
            ⟨_, Interleaving.mem_set_self called _, trivial⟩ }
      next =>
        cases stepped
        exact tended.pass called nofun trivial nofun nofun
          (fun _ _ => False.elim) (fun _ => False.elim)
  | erasing =>
      cases stepped
      exact tended.erase called (tended.erasing member)
  | round =>
      simp only [Slot.step] at stepped
      split at stepped
      next number known =>
        cases stepped
        refine tended.pass called (fun _ => rfl) ?_ nofun nofun
          (fun _ _ => False.elim) (fun _ => False.elim)
        rcases tended.registered with gone | same
        · rw [gone] at known
          cases known
        · exact same.symm.trans known
      next =>
        cases stepped
        exact tended.pass called nofun trivial nofun nofun
          (fun _ _ => False.elim) (fun _ => False.elim)
  | profiling number =>
      cases stepped
      refine {
        single := tended.single_step called fun _ => rfl
        concerned := tended.concerned_step concerns
        registered := tended.registered
        erasing := tended.erasing_step nofun
        keeping := ?_
        present := ?_
        absent := ?_ }
      · intro other result member
        -- Only the round itself could be keeping a result.
        cases Interleaving.eq_next_of_single tended.single called rfl member
          rfl
      · intro other known
        exact .inr ⟨_, Interleaving.mem_set_self called _,
          tended.number_eq concerns known⟩
      · intro gone
        exact (tended.absent gone).imp_right
          (Interleaving.exists_mem_set called False.elim)
  | checking number =>
      simp only [Slot.step] at stepped
      split at stepped
      next current =>
        cases stepped
        exact tended.pass called (fun _ => rfl) concerns nofun nofun
          (fun _ _ same => same) (fun _ => False.elim)
      next removed =>
        cases stepped
        refine tended.pass called nofun trivial nofun nofun ?_
          (fun _ => False.elim)
        rintro other known rfl
        exact absurd known removed
  | copying number =>
      cases stepped
      refine tended.pass called (fun _ => rfl) concerns nofun ?_
        (fun _ _ same => same) (fun _ => False.elim)
      rintro _ _ ⟨⟩
      rfl
  | keeping number result =>
      cases stepped
      refine {
        single := tended.single_step called fun _ => rfl
        concerned := tended.concerned_step concerns
        registered := tended.registered
        erasing := tended.erasing_step nofun
        keeping := tended.keeping_step nofun
        present := ?_
        absent := fun _ => .inr
          ⟨_, Interleaving.mem_set_self called _, trivial⟩ }
      intro other known
      obtain rfl := tended.number_eq concerns known
      exact .inl (congrArg some (tended.keeping number result member))
  | rechecking number =>
      simp only [Slot.step] at stepped
      split at stepped
      next current =>
        cases stepped
        refine tended.pass called nofun trivial nofun nofun
          (fun _ _ => False.elim) ?_
        intro gone
        rw [current] at gone
        cases gone
      next removed =>
        cases stepped
        exact tended.erase called (tended.gone_of_ne concerns removed)
  | returned => cases stepped
  | _ => exact concerns.elim

/-- No call waits for another one. -/
theorem returned_of_stuck
    (stuck : (Slot.step create cycle slot call).isNone) :
    call = .returned := by
  cases call with
  | returned => rfl
  | register spec | inserting number spec | unregister | round
  | checking number | rechecking number =>
      simp only [Slot.step] at stuck
      split at stuck <;> cases stuck
  | _ => cases stuck

/-- Whatever the order of steps, removals and one round end with a result
exactly if the profile is still registered, and then with the one that its
profiler has published. -/
theorem consistent_after_removals
    {start : Interleaving (Slot α) (Call α)} (fresh : Fresh start)
    {schedule : List Nat}
    (settled : (start.run (Slot.step create cycle) schedule).Settled
      (Slot.step create cycle)) :
    let last := start.run (Slot.step create cycle) schedule
    (∀ call ∈ last.calls, call = .returned) ∧ last.shared.Consistent := by
  intro last
  have tended : Tended start.shared.registered last :=
    Interleaving.run_invariant
      (fun state _ => Tended start.shared.registered state)
      (fun _ _ _ _ _ _ tended called stepped => tended.step called stepped)
      fresh.tended schedule
  have returned : ∀ call ∈ last.calls, call = .returned :=
    fun call member => returned_of_stuck (settled call member)
  refine ⟨returned, ?_⟩
  rw [Slot.Consistent]
  cases registered : last.shared.registered with
  | none =>
      refine (tended.absent registered).resolve_right ?_
      rintro ⟨call, member, erases⟩
      rw [returned call member] at erases
      exact erases
  | some number =>
      refine (tended.present number registered).resolve_right ?_
      rintro ⟨call, member, keeps⟩
      rw [returned call member] at keeps
      exact keeps

end

theorem Consistent.isSome_eq {slot : Slot α}
    (consistent : slot.Consistent) :
    slot.entry.isSome = slot.registered.isSome := by
  rw [consistent, Option.isSome_map]

open Profiler.Overlap (profiler spec)

/-- One registered profiler, and calls. -/
def lone (calls : List (Call Float)) :
    Interleaving (Slot Float) (Call Float) :=
  let known := profiler [.metricsApi]
  ⟨⟨[known], some 0, some known.result⟩, calls⟩

/-- Three ways in which a registration goes astray: a removal overtakes the
registration that has found its profiler, a registration overtakes the removal
before it, and a round erases the result of the new registration. -/
theorem registrations_go_astray :
    let step := Slot.step (.create (profiler [.metricsApi]).key) id
    let register : Call Float := .register (spec [.metricsApi])
    let overtaken := (lone [register, .unregister]).run step
      [0, 1, 1, 0, 0, 0, 0]
    let overtaking := (lone [.unregister, register]).run step
      [0, 1, 1, 1, 1, 0]
    let erased := (lone [.round, .unregister, register]).run step
      [0, 0, 0, 0, 0, 1, 1, 2, 2, 2, 2, 0]
    (lone []).shared.Consistent ∧
      ∀ last ∈ [overtaken, overtaking, erased],
        last.Settled step ∧ ¬ last.shared.Consistent := by
  intro step register overtaken overtaking erased
  refine ⟨rfl, ?_⟩
  have astray : ∀ last ∈ [overtaken, overtaking, erased],
      (∀ call ∈ last.calls, (step last.shared call).isNone) ∧
        last.shared.entry.isSome ≠ last.shared.registered.isSome := by
    decide +kernel
  intro last member
  obtain ⟨settled, different⟩ := astray last member
  exact ⟨settled, fun consistent => different consistent.isSome_eq⟩

end Slot

end UsageForecast.Manager
