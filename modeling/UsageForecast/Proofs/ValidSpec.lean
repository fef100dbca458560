import UsageForecast.Proofs.Lookup
import UsageForecast.Profiler.Basic

/-!
# Valid specs

A valid spec has a distribution model whose labels can all be read, so that
its quantiles are those of the model's labels, and of the default labels if
the model names none.
-/

namespace UsageForecast

theorem bind_eq_ok_iff {ε α β : Type} {first : Except ε α}
    {next : α → Except ε β} {result : β} :
    (first >>= next) = .ok result ↔
      ∃ value, first = .ok value ∧ next value = .ok result := by
  cases first with
  | error failure => simp [bind, Except.bind]
  | ok value => simp [bind, Except.bind]

theorem map_eq_ok_iff {ε α β : Type} {first : Except ε α} {change : α → β}
    {result : β} :
    change <$> first = .ok result ↔
      ∃ value, first = .ok value ∧ change value = result := by
  cases first with
  | error failure => simp [Functor.map, Except.map]
  | ok value => simp [Functor.map, Except.map]

theorem toOption_eq_some_iff {ε α : Type} {outcome : Except ε α} {value : α} :
    outcome.toOption = some value ↔ outcome = .ok value := by
  cases outcome <;> simp [Except.toOption]

section

variable {α : Type} [Scalar α]

theorem Quantile.label_of_parse {label : String} {quantile : Quantile α}
    (parsed : Quantile.parse label = .ok quantile) :
    quantile.label = label := by
  simp only [Quantile.parse] at parsed
  split at parsed
  · split at parsed
    · rw [← Except.ok.inj parsed]
    · cases parsed
  · cases parsed

private theorem labels_of_mapM
    {labels : List String} {quantiles : List (Quantile α)}
    (parsed : labels.mapM Quantile.parse = .ok quantiles) :
    quantiles.map Quantile.label = labels := by
  induction labels generalizing quantiles with
  | nil =>
      cases parsed
      rfl
  | cons label labels induction =>
      rw [List.mapM_cons] at parsed
      obtain ⟨quantile, first, parsed⟩ := bind_eq_ok_iff.1 parsed
      obtain ⟨others, rest, parsed⟩ := bind_eq_ok_iff.1 parsed
      rw [← Except.ok.inj parsed, List.map_cons,
        Quantile.label_of_parse first, induction rest]

end

namespace DistributionModel

variable {α : Type}

/-- The labels that a model reports. -/
def labels (model : DistributionModel α) : List String :=
  if model.quantiles.isEmpty then Quantile.defaultLabels
  else model.quantiles

theorem labels_ne_nil (model : DistributionModel α) : model.labels ≠ [] := by
  unfold labels
  split
  · simp [Quantile.defaultLabels]
  next listed =>
    intro empty
    exact listed (List.isEmpty_iff.2 empty)

theorem labels_of_parsedQuantiles [Scalar α]
    {model : DistributionModel α} {quantiles : List (Quantile α)}
    (parsed : model.parsedQuantiles = .ok quantiles) :
    quantiles.map Quantile.label = model.labels :=
  labels_of_mapM parsed

end DistributionModel

namespace Spec

variable {α : Type} [Scalar α]

/-- The labels that a spec reports. -/
def labels (spec : Spec α) : List String :=
  (spec.distribution?.getD DistributionModel.standard).labels

theorem checked_of_valid {spec : Spec α} (valid : spec.validate = .ok ()) :
    spec.estimators ≠ [] ∧ spec.estimators.forM checkEstimator = .ok () := by
  obtain ⟨owner, selections, estimators⟩ := spec
  cases selections with
  | nil => cases valid
  | cons selection selections =>
      cases estimators with
      | nil => cases valid
      | cons request requests =>
          obtain ⟨-, -, checked⟩ := bind_eq_ok_iff.1 valid
          exact ⟨List.cons_ne_nil _ _, checked⟩

/-- The first distribution model of a valid spec can be read. -/
theorem parsedQuantiles_of_valid
    {spec : Spec α} (valid : spec.validate = .ok ()) :
    ∃ model quantiles, spec.distribution? = some model ∧
      model.parsedQuantiles = .ok quantiles := by
  obtain ⟨present, checked⟩ := checked_of_valid valid
  obtain ⟨owner, selections, estimators⟩ := spec
  cases estimators with
  | nil => exact absurd rfl present
  | cons request requests =>
      obtain ⟨model⟩ := request
      obtain ⟨_, first, _⟩ := bind_eq_ok_iff.1 checked
      obtain ⟨quantiles, parsed, -⟩ := bind_eq_ok_iff.1 first
      exact ⟨model, quantiles, rfl, parsed⟩

theorem labels_quantiles {spec : Spec α} (valid : spec.validate = .ok ()) :
    spec.quantiles.map Quantile.label = spec.labels := by
  obtain ⟨model, quantiles, first, parsed⟩ := parsedQuantiles_of_valid valid
  have same := DistributionModel.labels_of_parsedQuantiles parsed
  simpa [Spec.quantiles, labels, first, parsed] using same

theorem quantiles_ne_nil {spec : Spec α} (valid : spec.validate = .ok ()) :
    spec.quantiles ≠ [] := by
  intro empty
  have same := labels_quantiles valid
  rw [empty] at same
  exact DistributionModel.labels_ne_nil _ same.symm

end Spec

end UsageForecast
