import UsageForecast.Manager.Basic
import UsageForecast.Publishing.Body

/-!
# The publisher of results

A round publishes the results of all registered profiles that have an owner.
Bodies that the publisher has already written are not written again; a failed
write is tried again in the next round.
-/

namespace UsageForecast

structure Publisher.Summary where
  written : Nat
  unchanged : Nat
  failed : Nat
deriving DecidableEq, Repr, Inhabited

def Publisher.Summary.toJson (summary : Publisher.Summary) : Json :=
  .object [
    ("written", Json.ofNat summary.written),
    ("unchanged", Json.ofNat summary.unchanged),
    ("failed", Json.ofNat summary.failed)]

/-- The bodies that were written last, and the last scheduled round. -/
structure Publisher where
  written : SortedMap ProfileKey Body
  lastSummary : Option Publisher.Summary
deriving Inhabited

structure Publisher.Write where
  owner : Owner
  body : Body
deriving DecidableEq, Inhabited

def Publisher.Write.toJson (write : Publisher.Write) : Json :=
  .object [
    ("owner", write.owner.toJson),
    ("status", write.body.toJson)]

namespace Publisher

def initial : Publisher := ⟨∅, none⟩

structure Round where
  publisher : Publisher
  telemetry : Telemetry
  summary : Summary
  /-- The writes that were tried, in order, and whether they succeeded. -/
  writes : List (Write × Bool)

variable {α : Type} [Scalar α]

/-- Publish the result of one profile, unless nothing is new. -/
def Round.step (write : Write → Bool) (round : Round)
    (status : Manager.Status α) : Round :=
  match status.owner with
  | none => round
  | some owner =>
      let body := Body.ofResult status.result
      let summary := round.summary
      -- Bodies are remembered by key, whichever owner they were written to.
      if round.publisher.written.find? status.key = some body then
        { round with
          summary := { summary with unchanged := summary.unchanged + 1 } }
      else
        let request : Write := ⟨owner, body⟩
        let success := write request
        { publisher :=
            if success then
              { round.publisher with
                written := round.publisher.written.insert status.key body }
            else
              round.publisher
          telemetry := round.telemetry.addWrite success
          summary :=
            if success then { summary with written := summary.written + 1 }
            else { summary with failed := summary.failed + 1 }
          writes := round.writes ++ [(request, success)] }

/-- Forget what was written for profiles that are not registered. -/
def forget (publisher : Publisher) (manager : Manager α) : Publisher :=
  { publisher with
    written := publisher.written.filter fun key _ =>
      manager.isRegistered key }

/-- Publish what is new.  Nothing is published before the manager has
started. -/
def publish (publisher : Publisher) (manager : Manager α)
    (write : Write → Bool) (telemetry : Telemetry) : Round :=
  if manager.started then
    manager.statuses.foldl (Round.step write)
      ⟨publisher.forget manager, telemetry, ⟨0, 0, 0⟩, []⟩
  else
    ⟨publisher, telemetry, ⟨0, 0, 0⟩, []⟩

def remember (publisher : Publisher) (summary : Summary) : Publisher :=
  { publisher with lastSummary := some summary }

end Publisher

end UsageForecast
