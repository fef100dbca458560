import UsageForecast.Interleaving
import UsageForecast.Profiler.Cycle

/-!
# Updates and cycles at the same time

An update stores its spec first and lets the entries follow afterwards; other
calls may come in between.  A cycle keeps the entries to itself from its
beginning to its end, and goes by the spec that it finds at the beginning.
-/

namespace UsageForecast.Profiler

structure Surroundings (α : Type) where
  settings : Settings α
  resolver : Resolver
  repository : Repository α
  now : Instant

/-- A profiler that several calls share. -/
structure Shared (σ α : Type) where
  profiler : Profiler α
  store : σ
  /-- Whether a cycle keeps the entries to itself. -/
  busy : Bool

inductive Call (α : Type) where
  | update (spec : Spec α)
  /-- The spec has been stored; the entries do not follow it yet. -/
  | following (spec : Spec α)
  | cycle (surroundings : Surroundings α)
  /-- The cycle has the entries to itself. -/
  | begun (surroundings : Surroundings α)
  /-- The cycle has found a spec to go by. -/
  | running (surroundings : Surroundings α) (spec : Spec α)
  | returned

variable {σ α : Type} [Analytic α] [CheckpointStore σ α]

/-- Finish a cycle that goes by a spec; a spec that was stored meanwhile
stays. -/
def Shared.finishCycle (shared : Shared σ α)
    (surroundings : Surroundings α) (spec : Spec α) : Shared σ α :=
  let cycle := (shared.profiler.storeSpec spec).profile
    surroundings.settings surroundings.resolver surroundings.repository
    surroundings.now shared.store
  ⟨cycle.profiler.storeSpec shared.profiler.spec, cycle.store, false⟩

/-- The next step of a call.  An update waits for the entries while a cycle
has them; a cycle that finds another one running returns. -/
def step (shared : Shared σ α) : Call α → Option (Shared σ α × Call α)
  | .update spec =>
      some ({ shared with profiler := shared.profiler.storeSpec spec },
        .following spec)
  | .following spec =>
      if shared.busy then
        none
      else
        some ({ shared with profiler := shared.profiler.follow spec },
          .returned)
  | .cycle surroundings =>
      if shared.busy then
        some (shared, .returned)
      else
        some ({ shared with busy := true }, .begun surroundings)
  | .begun surroundings =>
      some (shared, .running surroundings shared.profiler.spec)
  | .running surroundings spec =>
      some (shared.finishCycle surroundings spec, .returned)
  | .returned => none

end UsageForecast.Profiler
