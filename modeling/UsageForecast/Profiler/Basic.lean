import UsageForecast.Checkpoint.Store
import UsageForecast.Profile.Result

/-!
# Profilers

A profiler holds the estimators of one profile: for each entry an estimator
for each resource, the time the entry was last observed, and the time of the
last sample of each pod and resource, so that no observation is folded twice.
Its result is a published copy that changes only when a cycle, a restore or a
change of its spec is complete.
-/

namespace UsageForecast

/-- A resource observed in a pod. -/
structure Profiler.Observed where
  pod : PodName
  resource : Resource
deriving DecidableEq, Repr, Inhabited

namespace Profiler.Observed

abbrev order : Observed → Observed → Ordering :=
  compareLex (compareOn pod) (compareOn resource)

instance : Ord Observed := ⟨order⟩

instance : Std.TransOrd Observed := inferInstanceAs (Std.TransCmp order)

instance : Std.LawfulEqOrd Observed where
  eq_of_compare {left right} same := by
    obtain ⟨pods, rest⟩ := key_eq_and_then same
    have resources := key_eq rest
    cases left
    cases right
    simp_all

end Profiler.Observed

/-- The estimators of one entry of a profile. -/
structure Profiler.Entry (α : Type) where
  estimators : SortedMap Resource (Estimator α)
  lastSeen : Instant
  /-- The time of the last folded sample of each pod and resource. -/
  folded : SortedMap Profiler.Observed Instant

/-- The estimators of one profile, and what it has published. -/
structure Profiler (α : Type) where
  key : ProfileKey
  spec : Spec α
  entries : SortedMap String (Profiler.Entry α)
  result : ProfileResult α

structure Profiler.Settings (α : Type) where
  /-- For how many seconds an entry outlives its last observation. -/
  grace : Nat
  /-- The half-life for models that name none, in cycles. -/
  halfLife : α

namespace Spec

variable {α : Type} [Scalar α]

def quantiles (spec : Spec α) : List (Quantile α) :=
  let model := spec.distribution?.getD DistributionModel.standard
  match model.parsedQuantiles with
  | .ok quantiles => quantiles
  | .error _ => []

def asksFor (spec : Spec α) (resource : Resource) : Bool :=
  spec.resources.contains resource

def halfLifeOr (spec : Spec α) (standard : α) : α :=
  (spec.distribution?.bind DistributionModel.halfLife).getD standard

/-- The queries of a profile: every resource of every source, in the order of
the spec. -/
def queries (spec : Spec α) : List (Source × Resource) :=
  spec.selections.flatMap fun selection =>
    selection.resources.map fun resource => (selection.source, resource)

end Spec

namespace Profiler

variable {α : Type}

namespace Entry

def empty (now : Instant) : Entry α := ⟨∅, now, ∅⟩

/-- Keep only estimators and records of resources that pass a test. -/
def restrict (entry : Entry α) (keep : Resource → Bool) : Entry α :=
  { entry with
    estimators := entry.estimators.filter fun resource _ => keep resource
    folded := entry.folded.filter fun observed _ => keep observed.resource }

/-- Keep only records of pods that pass a test. -/
def forgetPods (entry : Entry α) (keep : PodName → Bool) : Entry α :=
  { entry with
    folded := entry.folded.filter fun observed _ => keep observed.pod }

section

variable [Scalar α]

def relabel (entry : Entry α) (quantiles : List (Quantile α)) : Entry α :=
  { entry with
    estimators := entry.estimators.mapValues fun _ estimator =>
      estimator.setQuantiles quantiles }

def decay (entry : Entry α) (factor : α) : Entry α :=
  { entry with
    estimators := entry.estimators.mapValues fun _ estimator =>
      estimator.decay factor }

/-- Take over the saved estimators of resources that pass a test. -/
def loadAll (entry : Entry α) (quantiles : List (Quantile α))
    (keep : Resource → Bool) (saved : Checkpoint.Entry α) : Entry α :=
  { entry with
    estimators := entry.estimators.insertAll <|
      (saved.filter fun resource _ => keep resource).entries.map
        fun (resource, state) =>
          (resource,
            (Estimator.forResource resource quantiles).load state) }

def Reportable (entry : Entry α) : Prop :=
  ∀ estimator ∈ entry.estimators.values, estimator.Reportable

instance (entry : Entry α) : Decidable entry.Reportable :=
  inferInstanceAs (Decidable (∀ estimator ∈ entry.estimators.values, _))

end

section

variable [Analytic α]

/-- Fold a sample of a pod, unless the last one folded for the pod and the
resource has the same time; says whether it was folded. -/
def fold (quantiles : List (Quantile α)) (entry : Entry α) (pod : PodName)
    (resource : Resource) (sample : Sample α) : Entry α × Bool :=
  -- All sources that serve the resource share this one time.
  if entry.folded.find? ⟨pod, resource⟩ = some sample.timestamp then
    (entry, false)
  else
    ({ entry with
      folded := entry.folded.insert ⟨pod, resource⟩ sample.timestamp
      estimators := entry.estimators.alter resource fun known =>
        (known.getD (Estimator.forResource resource quantiles)).ingest
          sample },
    true)

def result (entry : Entry α) : EntryResult α :=
  entry.estimators.mapValues fun _ estimator => estimator.summary

def states (entry : Entry α) : Checkpoint.Entry α :=
  entry.estimators.mapValues fun _ estimator => estimator.state

end

end Entry

def create (key : ProfileKey) (spec : Spec α) : Profiler α :=
  ⟨key, spec, ∅, ∅⟩

def Reportable [Scalar α] (profiler : Profiler α) : Prop :=
  ∀ entry ∈ profiler.entries.values, entry.Reportable

instance [Scalar α] (profiler : Profiler α) : Decidable profiler.Reportable :=
  inferInstanceAs (Decidable (∀ entry ∈ profiler.entries.values, _))

section

variable [Analytic α]

def summaries (profiler : Profiler α) : ProfileResult α :=
  profiler.entries.mapValues fun _ entry => entry.result

def publish (profiler : Profiler α) : Profiler α :=
  { profiler with result := profiler.summaries }

def checkpoint (profiler : Profiler α) (now : Instant) : Checkpoint α :=
  ⟨profiler.key, now,
    profiler.entries.mapValues fun _ entry => entry.states⟩

/-- Store another spec, which the entries do not follow yet. -/
def storeSpec (profiler : Profiler α) (spec : Spec α) : Profiler α :=
  { profiler with spec }

/-- Let the entries follow a spec: drop what it does not ask for, and report
its quantiles. -/
def follow (profiler : Profiler α) (spec : Spec α) : Profiler α :=
  publish { profiler with
    entries := profiler.entries.mapValues fun _ entry =>
      (entry.restrict spec.asksFor).relabel spec.quantiles }

def update (profiler : Profiler α) (spec : Spec α) : Profiler α :=
  (profiler.storeSpec spec).follow spec

/-- Take over the entries of a checkpoint.  Only estimators of resources that
the spec asks for are restored; entries are kept without any. -/
def takeOver (profiler : Profiler α) (now : Instant)
    (checkpoint : Checkpoint α) : Profiler α :=
  let load (entries : SortedMap String (Entry α)) (name : String)
      (saved : Checkpoint.Entry α) :=
    -- A checkpoint carries no times of samples; `folded` stays as it is.
    entries.alter name fun known =>
      (known.getD (Entry.empty now)).loadAll profiler.spec.quantiles
        profiler.spec.asksFor saved
  { profiler with
    entries := checkpoint.entries.foldl load profiler.entries }

/-- Restore a checkpoint and publish it.  A checkpoint whose statistics
cannot be reported stops the operation. -/
def restore (profiler : Profiler α) (now : Instant)
    (checkpoint : Checkpoint α) : Except Crash (Profiler α) :=
  let restored := profiler.takeOver now checkpoint
  if restored.Reportable then .ok restored.publish
  else .error .unorderedBounds

end

end Profiler

end UsageForecast
