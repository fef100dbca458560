/-!
# Schedules of periodic tasks

A task is due when its schedule starts and after every full period.  Within a
span of time the due tasks are ordered by their times; tasks due at the same
time run in the order in which the schedule lists them.  A task without a
period never runs.
-/

namespace UsageForecast

/-- Tasks with their periods, in milliseconds. -/
abbrev Schedule (τ : Type) := List (τ × Nat)

namespace Schedule

variable {τ : Type}

/-- How many times before a moment a task with a period is due. -/
def countBefore (period moment : Nat) : Nat :=
  (moment + period - 1) / period

def ticks (period start stop : Nat) : List Nat :=
  if period = 0 then
    []
  else
    let first := countBefore period start
    (List.range (countBefore period stop - first)).map fun step =>
      (first + step) * period

/-- The tasks due from a moment on, and before another, with their times. -/
def due (schedule : Schedule τ) (start stop : Nat) : List (Nat × τ) :=
  (schedule.flatMap fun (task, period) =>
    (ticks period start stop).map fun time => (time, task)).mergeSort
    fun left right => left.1 ≤ right.1

end Schedule

end UsageForecast
