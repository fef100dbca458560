import UsageForecast.Cluster.Resolver
import UsageForecast.Profiler.Basic
import UsageForecast.Usage.Repository

/-!
# Profiling cycles

A cycle finds the pods of a profile, lets the weights of past samples decay,
folds the latest usage into the entries, forgets pods that are gone, evicts
entries that were not observed for longer than the grace period, and saves a
checkpoint.  A query that fails does not stop the cycle.
-/

namespace UsageForecast

namespace Profiler

structure Report where
  pods : Nat
  entries : Nat
  samples : Nat
  /-- The failures that did not stop the cycle. -/
  failures : List String
deriving DecidableEq, Repr, Inhabited

def Report.empty : Report := ⟨0, 0, 0, []⟩

/-- Write a report as a record, with the reason if the cycle was skipped. -/
def Report.toJson (report : Report) (skipped : Option String) : Json :=
  .object [
    ("pods", Json.ofNat report.pods),
    ("entries", Json.ofNat report.entries),
    ("samples", Json.ofNat report.samples),
    ("failures", Json.ofStrings report.failures),
    ("skipped", Json.ofOption .string skipped)]

inductive Outcome where
  | completed (report : Report)
  /-- The cycle did not run, for a reason that is no error. -/
  | skipped (reason : String)
  | failed (failure : Failure)
  | crashed (crash : Crash)

/-- The outcome of a cycle that finds another one running. -/
def busy : Outcome := .skipped "previous cycle still running"

/-- What a cycle has counted so far. -/
structure Tally where
  samples : Nat
  malformed : Nat
  failures : List String
deriving DecidableEq, Repr, Inhabited

namespace Tally

def zero : Tally := ⟨0, 0, []⟩

def fail (tally : Tally) (failure : String) : Tally :=
  { tally with failures := tally.failures ++ [failure] }

def addMalformed (tally : Tally) (count : Nat) : Tally :=
  { tally with malformed := tally.malformed + count }

def addSample (tally : Tally) (folded : Bool) : Tally :=
  if folded then { tally with samples := tally.samples + 1 } else tally

end Tally

def queryFailure (source : Source) (subject : String) (resource : Resource)
    (reason : String) : String :=
  s!"{source.display} {subject}/{resource.name}: {reason}"

/-- The entry of profiles that look at pods as a whole. -/
def podEntry : String := "pod"

/-- The containers of a profile: those of its pods and those that its
workload declares. -/
def containerNames (resolver : Resolver) (target : Target)
    (pods : List Pod) : List String :=
  let declared :=
    match target with
    | .pods .. => []
    | .workload workload =>
        match resolver.template workload with
        | .ok template => template.containers
        | .error _ => []
  sortDistinct (pods.flatMap Pod.containers ++ declared)

variable {α : Type} [Analytic α]

def foldSamples (quantiles : List (Quantile α)) (resource : Resource)
    (samples : List (PodName × Sample α)) (entry : Entry α)
    (tally : Tally) : Entry α × Tally :=
  samples.foldl
    (fun (entry, tally) (pod, sample) =>
      let (entry, folded) := entry.fold quantiles pod resource sample
      (entry, tally.addSample folded))
    (entry, tally)

/-- Fold what a container of a name used according to one query, pod by pod
in the order of the answer. -/
def observeContainer (repository : Repository α) (key : ProfileKey)
    (quantiles : List (Quantile α)) (pods : List PodName)
    (container : String) (state : Entry α × Tally)
    (query : Source × Resource) : Entry α × Tally :=
  let (entry, tally) := state
  let (source, resource) := query
  match repository.usage source resource container pods with
  | .ok answer =>
      foldSamples quantiles resource
        (answer.samples.listedBy (repository.hashes key container query))
        entry (tally.addMalformed answer.malformed)
  | .error failure =>
      (entry,
        tally.fail (queryFailure source container resource failure.message))

/-- Observe every container of a profile in an entry of its own. -/
def observeContainers (repository : Repository α) (key : ProfileKey)
    (spec : Spec α) (now : Instant) (containers : List String)
    (pods : List PodName) (entries : SortedMap String (Entry α)) :
    SortedMap String (Entry α) × Tally :=
  containers.foldl
    (fun (entries, tally) container =>
      let known := (entries.find? container).getD (Entry.empty now)
      let (entry, tally) := spec.queries.foldl
        (observeContainer repository key spec.quantiles pods container)
        ({ known with lastSeen := now }, tally)
      (entries.insert container entry, tally))
    (entries, .zero)

/-- What the containers used according to one query, by container. -/
abbrev QueryAnswers (α : Type) :=
  SortedMap String (SortedMap PodName (Sample α))

def askAll (repository : Repository α) (containers : List String)
    (pods : List PodName) (query : Source × Resource) (tally : Tally) :
    QueryAnswers α × Tally :=
  containers.foldl
    (fun (answers, tally) container =>
      let (source, resource) := query
      match repository.usage source resource container pods with
      | .ok answer =>
          (answers.insert container answer.samples,
            tally.addMalformed answer.malformed)
      | .error failure =>
          (answers, tally.fail
            (queryFailure source container resource failure.message)))
    (∅, tally)

def samplesOf (answers : QueryAnswers α) (pod : Pod) : List (Sample α) :=
  pod.containers.filterMap fun container => do
    let samples ← answers.find? container
    samples.find? pod.id

/-- The sum of the samples of a pod, at the time of the latest one. -/
def total (first : Sample α) (rest : List (Sample α)) : Sample α :=
  ⟨rest.foldl (fun time sample => time.latest sample.timestamp)
      first.timestamp,
    Scalar.sum ((first :: rest).map Sample.value)⟩

/-- Fold the sum over the containers of a pod, unless a part is missing: a
partial sum would understate the pod. -/
def observePod (quantiles : List (Quantile α)) (answers : QueryAnswers α)
    (query : Source × Resource) (state : Entry α × Tally) (pod : Pod) :
    Entry α × Tally :=
  let (entry, tally) := state
  let (source, resource) := query
  match samplesOf answers pod with
  | [] => (entry, tally)
  | first :: rest =>
      let seen := rest.length + 1
      let expected := pod.containers.length
      if seen < expected then
        (entry, tally.fail (queryFailure source pod.id.display resource
          s!"usage for {seen} of {expected} containers"))
      else
        let (entry, folded) :=
          entry.fold quantiles pod.id resource (total first rest)
        (entry, tally.addSample folded)

/-- Observe one query for all pods of a profile in one entry. -/
def observePods (repository : Repository α) (quantiles : List (Quantile α))
    (containers : List String) (pods : List Pod)
    (state : Entry α × Tally) (query : Source × Resource) :
    Entry α × Tally :=
  let (entry, tally) := state
  let (answers, tally) :=
    askAll repository containers (pods.map Pod.id) query tally
  pods.foldl (observePod quantiles answers query) (entry, tally)

def observeWhole (repository : Repository α) (spec : Spec α)
    (now : Instant) (containers : List String) (pods : List Pod)
    (entries : SortedMap String (Entry α)) :
    SortedMap String (Entry α) × Tally :=
  let known := (entries.find? podEntry).getD (Entry.empty now)
  let entry := if pods.isEmpty then known else { known with lastSeen := now }
  let (entry, tally) := spec.queries.foldl
    (observePods repository spec.quantiles containers pods) (entry, .zero)
  (entries.insert podEntry entry, tally)

def decayAll (settings : Settings α) (spec : Spec α)
    (entries : SortedMap String (Entry α)) : SortedMap String (Entry α) :=
  let factor := decayFactor (spec.halfLifeOr settings.halfLife)
  entries.mapValues fun _ entry => entry.decay factor

def observe (repository : Repository α) (profiler : Profiler α)
    (now : Instant) (containers : List String) (pods : List Pod)
    (entries : SortedMap String (Entry α)) :
    SortedMap String (Entry α) × Tally :=
  match profiler.key.level with
  | .container => observeContainers repository profiler.key profiler.spec now
      containers (pods.map Pod.id) entries
  | .pod =>
      observeWhole repository profiler.spec now containers pods entries

/-- Forget pods that are gone, and evict entries past the grace period. -/
def evict (settings : Settings α) (now : Instant) (pods : List PodName)
    (entries : SortedMap String (Entry α)) : SortedMap String (Entry α) :=
  let grace := Instant.effectivePeriod settings.grace
  (entries.mapValues fun _ entry => entry.forgetPods pods.contains).filter
    fun _ entry => entry.lastSeen.within now grace

/-- A cycle that has observed its pods and has not saved anything yet. -/
structure Observation (α : Type) where
  profiler : Profiler α
  pods : Nat
  tally : Tally

def observation (settings : Settings α) (resolver : Resolver)
    (repository : Repository α) (now : Instant) (profiler : Profiler α) :
    Except Failure (Observation α) := do
  let pods ← resolver.pods profiler.key.target
  let containers := containerNames resolver profiler.key.target pods
  let (entries, tally) := profiler.observe repository now containers pods
    (decayAll settings profiler.spec profiler.entries)
  let kept := evict settings now (pods.map Pod.id) entries
  return ⟨{ profiler with entries := kept }, pods.length, tally⟩

/-- What a cycle leaves behind. -/
structure Cycle (σ α : Type) where
  profiler : Profiler α
  store : σ
  outcome : Outcome
  /-- How many usage values were malformed. -/
  malformed : Nat
  /-- Whether the checkpoint could not be saved. -/
  unsaved : Bool

variable {σ : Type} [CheckpointStore σ α]

/-- Save an observation and publish it.  A failed save is reported and does
not take anything back. -/
def Observation.finish (observation : Observation α) (now : Instant)
    (store : σ) : Cycle σ α :=
  let profiler := observation.profiler
  let malformed := observation.tally.malformed
  if profiler.Reportable then
    let (store, saved) := CheckpointStore.save store (profiler.checkpoint now)
    let tally :=
      match saved with
      | .ok _ => observation.tally
      | .error failure => observation.tally.fail failure.message
    { profiler := profiler.publish
      store
      outcome := .completed
        ⟨observation.pods, profiler.entries.size, tally.samples,
          tally.failures⟩
      malformed
      unsaved := !saved.isOk }
  else
    ⟨profiler, store, .crashed .unorderedBounds, malformed, false⟩

/-- Run one cycle.  A target that does not exist is no error. -/
def profile (settings : Settings α) (resolver : Resolver)
    (repository : Repository α) (now : Instant) (store : σ)
    (profiler : Profiler α) : Cycle σ α :=
  match profiler.observation settings resolver repository now with
  | .ok observation => observation.finish now store
  | .error failure =>
      ⟨profiler, store,
        if failure.isNotFound then .skipped failure.message
        else .failed failure, 0, false⟩

end Profiler

end UsageForecast
