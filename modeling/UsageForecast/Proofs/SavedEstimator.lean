import UsageForecast.Proofs.CheckpointText
import UsageForecast.Scalar.Binary

/-!
# Estimators continued from a saved state

An estimator that is loaded from a state differs from the one that was saved
at most in the quantiles it reports.  With the same quantile labels it is the
same estimator, so whatever happens to both has the same outcome.
-/

namespace UsageForecast

namespace Quantile

variable {α : Type} [Scalar α]

/-- A quantile that was read from its label. -/
def Named (quantile : Quantile α) : Prop :=
  parse quantile.label = .ok quantile

theorem eq_of_labels {left right : List (Quantile α)}
    (leftNamed : ∀ quantile ∈ left, quantile.Named)
    (rightNamed : ∀ quantile ∈ right, quantile.Named)
    (same : left.map label = right.map label) : left = right := by
  have parsed {quantiles : List (Quantile α)}
      (named : ∀ quantile ∈ quantiles, quantile.Named) :
      (quantiles.map label).map parse =
        quantiles.map (Except.ok (ε := SpecFault)) := by
    rw [List.map_map]
    exact List.map_congr_left named
  have injective : Function.Injective
      (Except.ok : Quantile α → Except SpecFault (Quantile α)) :=
    fun _ _ => Except.ok.inj
  refine List.map_injective_iff.2 injective ?_
  rw [← parsed leftNamed, ← parsed rightNamed, same]

end Quantile

theorem Histogram.ofCheckpoint_checkpoint {α : Type} [Scalar α]
    (histogram : Histogram α) :
    ofCheckpoint histogram.checkpoint = histogram := by
  have weights : (histogram.checkpoint.buckets.map fun bucket =>
      (bucket.index, bucket.weight)) = histogram.weights.entries := by
    simp [checkpoint, Function.comp_def]
  rw [ofCheckpoint, weights, SortedMap.ofList_entries]
  rfl

namespace Estimator

variable {α : Type} [Analytic α]

theorem load_state (other estimator : Estimator α) :
    other.load estimator.state = estimator.setQuantiles other.quantiles := by
  simp only [load, state, setQuantiles, Histogram.ofCheckpoint_checkpoint]

/-- What happens to an estimator between two reports. -/
inductive Operation (α : Type) where
  | ingest (sample : Sample α)
  | decay (factor : α)
  | setQuantiles (quantiles : List (Quantile α))

def perform (estimator : Estimator α) : Operation α → Estimator α
  | .ingest sample => estimator.ingest sample
  | .decay factor => estimator.decay factor
  | .setQuantiles quantiles => estimator.setQuantiles quantiles

def performAll (estimator : Estimator α) (operations : List (Operation α)) :
    Estimator α :=
  operations.foldl perform estimator

/-- A checkpoint is read back from its text as it was written.  Hence an
estimator that is loaded from the text of the state of another one, and has
its quantile labels, reports the same as that one, then and after any
operations that both undergo. -/
theorem read_back_and_continued :
    (∀ checkpoint : Checkpoint α, checkpoint.Legible →
      Json.ofText? checkpoint.toJson.render >>= Checkpoint.ofJson? =
        some checkpoint) ∧
    ∀ (layout : Layout α) (quantiles : List (Quantile α))
        (earlier : List (Operation α)),
      let estimator := (empty layout quantiles).performAll earlier
      estimator.state.Legible →
      (∀ quantile ∈ estimator.quantiles, quantile.Named) →
        ∃ saved,
          Json.ofText? estimator.state.toJson.render >>= State.ofJson? =
            some saved ∧
          ∀ layout quantiles, (∀ quantile ∈ quantiles, quantile.Named) →
            quantiles.map Quantile.label =
              estimator.quantiles.map Quantile.label →
            let continued := (empty layout quantiles).load saved
            continued.state = estimator.state ∧
              ∀ later, (continued.performAll later).state =
                (estimator.performAll later).state := by
  refine ⟨fun checkpoint legible => legible.faithful.ofText?_render, ?_⟩
  intro layout quantiles earlier estimator legible named
  refine ⟨estimator.state, legible.faithful.ofText?_render, ?_⟩
  intro layout others othersNamed labels continued
  obtain rfl := Quantile.eq_of_labels othersNamed named labels
  have same : continued = estimator := load_state _ estimator
  rw [same]
  exact ⟨rfl, fun _ => rfl⟩

/-- Usage that stays at nothing, aged once between two samples. -/
def stillHistory : List (Operation Float) :=
  [.ingest ⟨⟨100, 0⟩, 0⟩, .decay (Scalar.scientific 5 (-1)),
    .ingest ⟨⟨160, 500000000⟩, 0⟩,
    .setQuantiles [⟨"p50", Scalar.scientific 5 (-1)⟩]]

def still : Estimator Float :=
  (forResource .cpu []).performAll stillHistory

def stillCheckpoint : Checkpoint Float :=
  { key :=
      { target := .pods "default"
          ⟨SortedMap.ofList [("app", "web")],
            [⟨"tier", .among, ["front", "back"]⟩]⟩
        sources := [.metricsApi, .prometheus "vms"]
        estimators := [.distribution]
        level := .container }
    savedAt := ⟨200, 0⟩
    entries := SortedMap.ofList
      [("web", SortedMap.ofList [(.cpu, still.state)]), ("log", ∅)] }

theorem named_median :
    (⟨"p50", Scalar.scientific 5 (-1)⟩ : Quantile Float).Named := by
  have percentage : (Quantile.percentage? "p50" : Option Float) =
      some (Scalar.scientific 50 0) := by decide +kernel
  have inside : 0 < (Scalar.scientific 50 0 : Float) ∧
      (Scalar.scientific 50 0 : Float) ≤ Scalar.scientific 100 0 := by
    decide +kernel
  have share : (Scalar.scientific 50 0 : Float) / Scalar.scientific 100 0 =
      Scalar.scientific 5 (-1) := by decide +kernel
  rw [Quantile.Named, Quantile.parse, percentage]
  exact (if_pos inside).trans (by rw [share])

theorem still_read_back_and_continued :
    stillCheckpoint.Legible ∧ still.state.Legible ∧
      (∀ quantile ∈ still.quantiles, quantile.Named) ∧
      Json.ofText? stillCheckpoint.toJson.render >>= Checkpoint.ofJson? =
        some stillCheckpoint ∧
      ∃ saved,
        Json.ofText? still.state.toJson.render >>= State.ofJson? =
          some saved ∧
        ((forResource .memory still.quantiles).load saved).state =
          still.state := by
  have checkpoint : stillCheckpoint.Legible := by decide +kernel
  have state : still.state.Legible := by decide +kernel
  have named : ∀ quantile ∈ still.quantiles, quantile.Named :=
    List.forall_mem_singleton.2 named_median
  obtain ⟨readBack, continued⟩ := read_back_and_continued (α := Float)
  obtain ⟨saved, read, loaded⟩ := continued _ _ stillHistory state named
  exact ⟨checkpoint, state, named, readBack _ checkpoint, saved, read,
    (loaded (Layout.forResource .memory) _ named rfl).1⟩

end Estimator

end UsageForecast
