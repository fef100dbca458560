import UsageForecast.Proofs.Lookup
import UsageForecast.Publishing.Publisher

/-!
# The effect of a round of publishing

A round looks at each profile once.  A profile whose body is remembered is
left alone; for others a write to the owner is tried, and only if it succeeds
is the body remembered and shown by the owner.  Profiles with different keys
and owners do not influence one another.
-/

namespace UsageForecast

namespace Manager

theorem statuses_nodup {α : Type} (manager : Manager α) :
    (manager.statuses.map Status.key).Nodup := by
  have same : manager.statuses.map Status.key =
      manager.registry.keys := by
    rw [statuses, List.map_map]
    rfl
  rw [same]
  exact SortedMap.keys_nodup _

theorem registered_of_mem {α : Type} {manager : Manager α}
    {status : Status α} (member : status ∈ manager.statuses) :
    manager.isRegistered status.key = true := by
  obtain ⟨entry, listed, rfl⟩ := List.mem_map.1 member
  rw [isRegistered, SortedMap.contains_iff]
  exact ⟨_, SortedMap.find?_eq_some_iff.2 listed⟩

/-- A registered profile is determined by its key. -/
theorem status_unique {α : Type} {manager : Manager α}
    {left right : Status α} (leftMember : left ∈ manager.statuses)
    (rightMember : right ∈ manager.statuses) (same : left.key = right.key) :
    left = right := by
  obtain ⟨⟨key, first⟩, leftListed, rfl⟩ := List.mem_map.1 leftMember
  obtain ⟨⟨other, second⟩, rightListed, rfl⟩ := List.mem_map.1 rightMember
  simp only at same
  subst same
  have found := SortedMap.find?_eq_some_iff.2 leftListed
  rw [SortedMap.find?_eq_some_iff.2 rightListed] at found
  rw [Option.some.inj found]

end Manager

namespace Publisher

theorem find?_forget {α : Type} {publisher : Publisher}
    {manager : Manager α} {status : Manager.Status α}
    (member : status ∈ manager.statuses) :
    (publisher.forget manager).written.find? status.key =
      publisher.written.find? status.key := by
  rw [forget, SortedMap.find?_filter]
  cases publisher.written.find? status.key with
  | none => rfl
  | some body =>
      exact Option.filter_some_pos (Manager.registered_of_mem member)

/-- What owners show after some attempts to write to them: a failed attempt
has no effect. -/
def record (shown : SortedMap Owner Body) (attempts : List (Write × Bool)) :
    SortedMap Owner Body :=
  attempts.foldl
    (fun shown attempt =>
      if attempt.2 then shown.insert attempt.1.owner attempt.1.body
      else shown)
    shown

/-- How many profiles a summary accounts for. -/
def Summary.total (summary : Summary) : Nat :=
  summary.written + summary.unchanged + summary.failed

/-- What becomes of the body that is remembered for a profile and of the body
that its owner shows. -/
def settle (write : Write → Bool) (remembered shown : Option Body)
    (request : Write) : Option Body × Option Body :=
  if remembered = some request.body then (remembered, shown)
  else if write request then (some request.body, some request.body)
  else (remembered, shown)

theorem settle_cases (write : Write → Bool) (remembered shown : Option Body)
    (request : Write) :
    settle write remembered shown request =
        (some request.body, some request.body) ∨
      settle write remembered shown request = (remembered, shown) := by
  unfold settle
  split
  · exact .inr rfl
  · split
    · exact .inl rfl
    · exact .inr rfl

theorem record_append (shown : SortedMap Owner Body)
    (attempts more : List (Write × Bool)) :
    record shown (attempts ++ more) = record (record shown attempts) more :=
  List.foldl_append

variable {α : Type} [Scalar α]

/-- The write that is tried for a profile with a given owner. -/
def requestOf (status : Manager.Status α) (owner : Owner) : Write :=
  ⟨owner, Body.ofResult status.result⟩

variable {write : Write → Bool} {round : Round} {status : Manager.Status α}
  {statuses : List (Manager.Status α)} {shown : SortedMap Owner Body}
  {owner : Owner} {key : ProfileKey}

theorem step_of_unowned (unowned : status.owner = none) :
    round.step write status = round := by
  simp [Round.step, unowned]

theorem step_of_remembered (owned : status.owner = some owner)
    (remembered : round.publisher.written.find? status.key =
      some (requestOf status owner).body) :
    round.step write status = { round with
      summary := { round.summary with
        unchanged := round.summary.unchanged + 1 } } := by
  simp only [requestOf] at remembered
  simp [Round.step, owned, remembered]

variable (write) in
theorem step_of_new (owned : status.owner = some owner)
    (new : round.publisher.written.find? status.key ≠
      some (requestOf status owner).body) :
    let next := round.step write status
    let request := requestOf status owner
    next.writes = round.writes ++ [(request, write request)] ∧
      next.summary.total = round.summary.total + 1 ∧
      next.publisher.written =
        if write request then
          round.publisher.written.insert status.key request.body
        else
          round.publisher.written := by
  intro next request
  simp only [requestOf] at new
  simp only [next, Round.step, owned, if_neg new]
  refine ⟨rfl, ?_, ?_⟩
  · change (if write request = true then _ else _ : Summary).total = _
    split
    · simp only [Summary.total]
      omega
    · simp only [Summary.total]
      omega
  · change (if write request = true then _ else _ : Publisher).written = _
    split <;> rfl

theorem total_step :
    (round.step write status).summary.total =
      round.summary.total + (if status.owner.isSome then 1 else 0) := by
  cases owned : status.owner with
  | none =>
      rw [step_of_unowned owned]
      rfl
  | some owner =>
      by_cases remembered : round.publisher.written.find? status.key =
          some (requestOf status owner).body
      · rw [step_of_remembered owned remembered]
        simp only [Summary.total, Option.isSome_some, if_true]
        omega
      · exact (step_of_new write owned remembered).2.1

/-- A round accounts for every profile that has an owner. -/
theorem total_steps :
    (statuses.foldl (Round.step write) round).summary.total =
      round.summary.total +
        (statuses.filter fun status => status.owner.isSome).length := by
  induction statuses generalizing round with
  | nil => rfl
  | cons status statuses induction =>
      rw [List.foldl_cons, induction, total_step, List.filter_cons]
      split
      · rw [List.length_cons]
        omega
      · rfl

theorem written_step_of_unowned
    (unowned : status.key = key → status.owner = none) :
    (round.step write status).publisher.written.find? key =
      round.publisher.written.find? key := by
  cases owned : status.owner with
  | none => rw [step_of_unowned owned]
  | some owner =>
      have different : key ≠ status.key := by
        rintro rfl
        rw [unowned rfl] at owned
        cases owned
      by_cases remembered : round.publisher.written.find? status.key =
          some (requestOf status owner).body
      · rw [step_of_remembered owned remembered]
      · rw [(step_of_new write owned remembered).2.2]
        split
        · exact SortedMap.find?_insert_of_ne _ _ different
        · rfl

theorem shown_step_of_ne (different : status.owner ≠ some owner) :
    (record shown (round.step write status).writes).find? owner =
      (record shown round.writes).find? owner := by
  cases owned : status.owner with
  | none => rw [step_of_unowned owned]
  | some other =>
      by_cases remembered : round.publisher.written.find? status.key =
          some (requestOf status other).body
      · rw [step_of_remembered owned remembered]
      · have distinct : owner ≠ other := by
          rintro rfl
          exact different owned
        rw [(step_of_new write owned remembered).1, record_append]
        simp only [record, List.foldl_cons, List.foldl_nil]
        split
        · exact SortedMap.find?_insert_of_ne _ _ distinct
        · rfl

theorem step_eq_settle (owned : status.owner = some owner) :
    let next := round.step write status
    (next.publisher.written.find? status.key,
        (record shown next.writes).find? owner) =
      settle write (round.publisher.written.find? status.key)
        ((record shown round.writes).find? owner)
        (requestOf status owner) := by
  intro next
  unfold settle
  by_cases remembered : round.publisher.written.find? status.key =
      some (requestOf status owner).body
  · rw [if_pos remembered]
    simp only [next, step_of_remembered owned remembered]
  · obtain ⟨writes, -, written⟩ :=
      step_of_new write owned remembered
    rw [if_neg remembered]
    simp only [next, writes, written, record_append]
    cases write (requestOf status owner) with
    | true => simp [record, requestOf]
    | false => simp [record]

theorem written_steps_of_unowned
    (unowned : ∀ status ∈ statuses,
      status.key = key → status.owner = none) :
    (statuses.foldl (Round.step write) round).publisher.written.find? key =
      round.publisher.written.find? key := by
  induction statuses generalizing round with
  | nil => rfl
  | cons status statuses induction =>
      have rest : ∀ other ∈ statuses,
          other.key = key → other.owner = none := by
        intro other member
        exact unowned other (List.mem_cons_of_mem _ member)
      rw [List.foldl_cons, induction rest,
        written_step_of_unowned (unowned status List.mem_cons_self)]

theorem shown_steps_of_unowned
    (unowned : ∀ status ∈ statuses, status.owner ≠ some owner) :
    (record shown (statuses.foldl (Round.step write) round).writes).find?
        owner =
      (record shown round.writes).find? owner := by
  induction statuses generalizing round with
  | nil => rfl
  | cons status statuses induction =>
      have rest : ∀ other ∈ statuses, other.owner ≠ some owner := by
        intro other member
        exact unowned other (List.mem_cons_of_mem _ member)
      rw [List.foldl_cons, induction rest,
        shown_step_of_ne (unowned status List.mem_cons_self)]

/-- No two profiles with different keys have the same owner. -/
def Exclusive (left right : List (Manager.Status α)) : Prop :=
  ∀ first ∈ left, ∀ second ∈ right, first.owner.isSome →
    first.owner = second.owner → first.key = second.key

/-- In a round each profile is settled as it would be alone. -/
theorem steps_eq_settle
    (distinct : (statuses.map Manager.Status.key).Nodup)
    (exclusive : Exclusive statuses statuses)
    (member : status ∈ statuses) (owned : status.owner = some owner) :
    let next := statuses.foldl (Round.step write) round
    (next.publisher.written.find? status.key,
        (record shown next.writes).find? owner) =
      settle write (round.publisher.written.find? status.key)
        ((record shown round.writes).find? owner)
        (requestOf status owner) := by
  induction statuses generalizing round with
  | nil => cases member
  | cons head statuses induction =>
      obtain ⟨fresh, distinctTail⟩ := List.nodup_cons.1 distinct
      have known : ∀ other ∈ head :: statuses,
          other.owner = some owner → other.key = status.key := by
        intro other listed same
        exact exclusive other listed status member
          (by rw [same]; rfl) (same.trans owned.symm)
      simp only [List.foldl_cons]
      rcases List.mem_cons.1 member with rfl | later
      · have unowned : ∀ other ∈ statuses, other.owner ≠ some owner := by
          intro other listed same
          apply fresh
          rw [← known other (List.mem_cons_of_mem _ listed) same]
          exact List.mem_map.2 ⟨other, listed, rfl⟩
        have absent : ∀ other ∈ statuses,
            other.key = status.key → other.owner = none := by
          intro other listed same
          refine absurd (List.mem_map.2 ⟨other, listed, same⟩) fresh
        rw [written_steps_of_unowned absent, shown_steps_of_unowned unowned]
        exact step_eq_settle owned
      · have different : status.key ≠ head.key :=
          ne_of_mem_of_not_mem (List.mem_map.2 ⟨status, later, rfl⟩) fresh
        have foreign : head.owner ≠ some owner := by
          intro same
          exact different (known head List.mem_cons_self same).symm
        have exclusiveTail : Exclusive statuses statuses := by
          intro first listed second other
          exact exclusive first (List.mem_cons_of_mem _ listed) second
            (List.mem_cons_of_mem _ other)
        refine (induction distinctTail exclusiveTail later).trans ?_
        rw [written_step_of_unowned fun same => absurd same.symm different,
          shown_step_of_ne foreign]

theorem mem_writes_step {attempt : Write × Bool}
    (member : attempt ∈ round.writes) :
    attempt ∈ (round.step write status).writes := by
  cases owned : status.owner with
  | none => rwa [step_of_unowned owned]
  | some owner =>
      by_cases remembered : round.publisher.written.find? status.key =
          some (requestOf status owner).body
      · rwa [step_of_remembered owned remembered]
      · rw [(step_of_new write owned remembered).1]
        exact List.mem_append_left _ member

theorem mem_writes_steps {attempt : Write × Bool}
    (member : attempt ∈ round.writes) :
    attempt ∈ (statuses.foldl (Round.step write) round).writes := by
  induction statuses generalizing round with
  | nil => exact member
  | cons status statuses induction => exact induction (mem_writes_step member)

/-- A body that is not remembered is tried to be written. -/
theorem attempted_of_new
    (distinct : (statuses.map Manager.Status.key).Nodup)
    (member : status ∈ statuses) (owned : status.owner = some owner)
    (new : round.publisher.written.find? status.key ≠
      some (requestOf status owner).body) :
    (requestOf status owner, write (requestOf status owner)) ∈
      (statuses.foldl (Round.step write) round).writes := by
  induction statuses generalizing round with
  | nil => cases member
  | cons head statuses induction =>
      obtain ⟨fresh, distinctTail⟩ := List.nodup_cons.1 distinct
      rw [List.foldl_cons]
      rcases List.mem_cons.1 member with rfl | later
      · apply mem_writes_steps
        rw [(step_of_new write owned new).1]
        exact List.mem_append_right _ List.mem_cons_self
      · have different : status.key ≠ head.key :=
          ne_of_mem_of_not_mem (List.mem_map.2 ⟨status, later, rfl⟩) fresh
        apply induction distinctTail later
        rwa [written_step_of_unowned fun same => absurd same.symm different]

/-- Nothing is written if every body is remembered. -/
theorem writes_of_remembered
    (remembered : ∀ status ∈ statuses, ∀ owner,
      status.owner = some owner →
        round.publisher.written.find? status.key =
          some (requestOf status owner).body) :
    (statuses.foldl (Round.step write) round).writes = round.writes := by
  induction statuses generalizing round with
  | nil => rfl
  | cons status statuses induction =>
      have unchanged :
          (round.step write status).publisher = round.publisher ∧
            (round.step write status).writes = round.writes := by
        cases owned : status.owner with
        | none =>
            rw [step_of_unowned owned]
            exact ⟨rfl, rfl⟩
        | some owner =>
            rw [step_of_remembered owned
              (remembered status List.mem_cons_self owner owned)]
            exact ⟨rfl, rfl⟩
      rw [List.foldl_cons, induction, unchanged.2]
      intro other listed owner owned
      rw [unchanged.1]
      exact remembered other (List.mem_cons_of_mem _ listed) owner owned

section

variable {publisher : Publisher} {manager : Manager α}
  {telemetry : Telemetry}

variable (publisher) in
theorem publish_of_started (started : manager.started = true) :
    publisher.publish manager write telemetry =
      manager.statuses.foldl (Round.step write)
        ⟨publisher.forget manager, telemetry, ⟨0, 0, 0⟩, []⟩ :=
  if_pos started

/-- A round of a started manager accounts for every registered profile that
has an owner. -/
theorem publish_total (started : manager.started = true) :
    (publisher.publish manager write telemetry).summary.total =
      (manager.statuses.filter fun status => status.owner.isSome).length := by
  rw [publish_of_started publisher started, total_steps]
  exact Nat.zero_add _

variable (publisher telemetry write shown) in
theorem publish_eq_settle (started : manager.started = true)
    (exclusive : Exclusive manager.statuses manager.statuses)
    (member : status ∈ manager.statuses)
    (owned : status.owner = some owner) :
    let round := publisher.publish manager write telemetry
    (round.publisher.written.find? status.key,
        (record shown round.writes).find? owner) =
      settle write (publisher.written.find? status.key)
        (shown.find? owner) (requestOf status owner) := by
  rw [← find?_forget member, publish_of_started publisher started]
  exact steps_eq_settle manager.statuses_nodup exclusive member owned

theorem publish_shown_of_unowned (started : manager.started = true)
    (unowned : ∀ status ∈ manager.statuses, status.owner ≠ some owner) :
    (record shown
        (publisher.publish manager write telemetry).writes).find? owner =
      shown.find? owner := by
  rw [publish_of_started publisher started,
    shown_steps_of_unowned unowned]
  rfl

variable (shown) in
/-- After a round all of whose writes succeed every body is remembered, and
the owners of those that were new show them. -/
theorem publish_of_all_written (started : manager.started = true)
    (exclusive : Exclusive manager.statuses manager.statuses)
    (written : ∀ attempt ∈
      (publisher.publish manager write telemetry).writes, attempt.2 = true)
    (member : status ∈ manager.statuses)
    (owned : status.owner = some owner) :
    let round := publisher.publish manager write telemetry
    let body := (requestOf status owner).body
    round.publisher.written.find? status.key = some body ∧
      (record shown round.writes).find? owner =
        if publisher.written.find? status.key = some body then
          shown.find? owner
        else
          some body := by
  intro round body
  have settled := publish_eq_settle write shown publisher telemetry started
    exclusive member owned
  unfold settle at settled
  by_cases remembered : publisher.written.find? status.key = some body
  · rw [if_pos remembered] at settled
    obtain ⟨kept, same⟩ := Prod.mk.inj settled
    rw [if_pos remembered]
    exact ⟨kept.trans remembered, same⟩
  · have tried : (requestOf status owner, write (requestOf status owner)) ∈
        round.writes := by
      simp only [round, publish_of_started publisher started]
      apply attempted_of_new manager.statuses_nodup member owned
      rwa [find?_forget member]
    rw [if_neg remembered, if_pos (written _ tried)] at settled
    obtain ⟨kept, same⟩ := Prod.mk.inj settled
    rw [if_neg remembered]
    exact ⟨kept, same⟩

/-- Nothing is written after a round all of whose writes succeeded. -/
theorem publish_again {again : Write → Bool} {later : Telemetry}
    (started : manager.started = true)
    (exclusive : Exclusive manager.statuses manager.statuses)
    (written : ∀ attempt ∈
      (publisher.publish manager write telemetry).writes,
        attempt.2 = true) :
    ((publisher.publish manager write telemetry).publisher.publish manager
      again later).writes = [] := by
  rw [publish_of_started (publisher.publish manager write
    telemetry).publisher started]
  apply writes_of_remembered
  intro status member owner owned
  rw [find?_forget member]
  exact (publish_of_all_written ∅ started exclusive written member owned).1

variable (shown) in
/-- A body that is remembered after a round was written to the owner of its
profile, or was remembered before while nothing was written for it. -/
theorem remembered_after_publish (started : manager.started = true)
    (exclusive : Exclusive manager.statuses manager.statuses)
    {body : Body}
    (remembered : (publisher.publish manager write
      telemetry).publisher.written.find? key = some body) :
    let now := record shown
      (publisher.publish manager write telemetry).writes
    (∃ status ∈ manager.statuses, ∃ owner, status.key = key ∧
      status.owner = some owner ∧ now.find? owner = some body) ∨
    (publisher.written.find? key = some body ∧ ∀ owner,
      (∀ status ∈ manager.statuses, status.owner = some owner →
        status.key = key) → now.find? owner = shown.find? owner) := by
  intro now
  by_cases served : ∃ status ∈ manager.statuses,
      status.key = key ∧ status.owner ≠ none
  · obtain ⟨status, member, rfl, present⟩ := served
    obtain ⟨owner, owned⟩ := Option.ne_none_iff_exists'.1 present
    have settled := publish_eq_settle write shown publisher telemetry started
      exclusive member owned
    rcases settle_cases write (publisher.written.find? status.key)
      (shown.find? owner) (requestOf status owner) with fresh | kept
    · rw [fresh] at settled
      obtain ⟨written, seen⟩ := Prod.mk.inj settled
      refine .inl ⟨status, member, owner, rfl, owned, ?_⟩
      exact seen.trans (written.symm.trans remembered)
    · rw [kept] at settled
      obtain ⟨written, seen⟩ := Prod.mk.inj settled
      refine .inr ⟨written.symm.trans remembered, ?_⟩
      intro other alone
      by_cases same : other = owner
      · rw [same]
        exact seen
      · apply publish_shown_of_unowned started
        intro rival listed named
        have unique := Manager.status_unique listed member
          (alone rival listed named)
        rw [unique, owned] at named
        exact same (Option.some.inj named).symm
  · have unowned : ∀ status ∈ manager.statuses,
        status.key = key → status.owner = none := by
      intro status member named
      cases owned : status.owner with
      | none => rfl
      | some owner =>
          exact absurd ⟨status, member, named, by simp [owned]⟩ served
    rw [publish_of_started publisher started,
      written_steps_of_unowned unowned] at remembered
    simp only [forget, SortedMap.find?_filter,
      Option.filter_eq_some_iff] at remembered
    refine .inr ⟨remembered.1, ?_⟩
    intro owner alone
    apply publish_shown_of_unowned started
    intro rival listed named
    rw [unowned rival listed (alone rival listed named)] at named
    cases named

end

end Publisher

end UsageForecast
