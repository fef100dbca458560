/-!
# Interleaving of calls

Calls that run at the same time share a state.  Each call advances by one
atomic step at a time, unless it has to wait or has returned.  A schedule says
whose turn it is, so a run of the calls is determined by their schedule.
-/

namespace UsageForecast

/-- Calls under way on a shared state. -/
structure Interleaving (σ κ : Type) where
  shared : σ
  calls : List κ

namespace Interleaving

variable {σ κ : Type}

/-- Let the call at a position take a step if it can. -/
def advance (step : σ → κ → Option (σ × κ)) (state : Interleaving σ κ)
    (position : Nat) : Interleaving σ κ :=
  match state.calls[position]? with
  | none => state
  | some call =>
      match step state.shared call with
      | none => state
      | some (shared, next) => ⟨shared, state.calls.set position next⟩

/-- Let calls take steps in the order of a schedule. -/
def run (step : σ → κ → Option (σ × κ)) (state : Interleaving σ κ)
    (schedule : List Nat) : Interleaving σ κ :=
  schedule.foldl (advance step) state

/-- Whether no call can take a step. -/
def Settled (step : σ → κ → Option (σ × κ))
    (state : Interleaving σ κ) : Prop :=
  ∀ call ∈ state.calls, (step state.shared call).isNone

end Interleaving

end UsageForecast
