import UsageForecast.Proofs.ExactScalar
import UsageForecast.Proofs.InstantOrder
import UsageForecast.Proofs.ListedCluster
import UsageForecast.Proofs.Lookup
import UsageForecast.Proofs.RunningStatistics
import UsageForecast.Usage.QueryClient

/-!
# Merged series

A snapshot that is merged from the answers to the queries of a back end shows
every measurement of the labelled series in its place and nothing else, and a
pod is as recent as its latest series.  As these facts determine a snapshot,
neither the order of the answers nor that of the series makes a difference.
-/

namespace UsageForecast

theorem Http.Exchange.outcome_bind_eq_ok {ε β γ : Type}
    {exchange : Exchange ε β} {next : β → Exchange ε γ} {result : γ} :
    (exchange >>= next).outcome = .ok result ↔
      ∃ value, exchange.outcome = .ok value ∧
        (next value).outcome = .ok result := by
  rw [outcome_bind]
  cases exchange.outcome with
  | error fault => exact ⟨nofun, nofun⟩
  | ok value =>
      exact ⟨fun done => ⟨value, rfl, done⟩, fun ⟨_, rfl, done⟩ => done⟩

variable {α : Type}

/-- What a labelled series tells of a resource of a container. -/
structure Finding (α : Type) where
  pod : PodName
  container : String
  resource : Resource
  time : Instant
  measurement : Measurement α

namespace Finding

/-- Where a finding belongs in a snapshot. -/
def place (finding : Finding α) : PodName × String × Resource :=
  (finding.pod, finding.container, finding.resource)

/-- What a snapshot tells of the pod of a finding once it has been merged. -/
def update (finding : Finding α) (known : Option (PodUsage α)) :
    PodUsage α :=
  let usage := known.getD (.empty finding.time)
  { usage with timestamp := usage.timestamp.latest finding.time }.insert
    finding.container finding.resource finding.measurement

def merge (snapshot : UsageSnapshot α) (finding : Finding α) :
    UsageSnapshot α :=
  snapshot.alter finding.pod finding.update

end Finding

namespace Series

variable [Scalar α]

/-- The time of a series, if the calendar has it. -/
def time? (series : Series α) : Option Instant :=
  Instant.ofMilliseconds?
    (Scalar.truncate (series.seconds * Scalar.scientific 1000 0))

def finding? (now : Instant) (resource : Resource) (series : Series α) :
    Option (Finding α) :=
  series.container?.map fun (pod, container) =>
    ⟨pod, container, resource, series.timestamp now, series.measurement⟩

theorem timestamp_of_time? {series : Series α} {time : Instant}
    (known : series.time? = some time) (now : Instant) :
    series.timestamp now = time := by
  change series.time?.getD now = time
  rw [known]
  rfl

/-- If the calendar has its time, the present does not matter to a series. -/
theorem finding?_eq {series : Series α}
    (timed : series.container?.isSome → series.time?.isSome)
    (now other : Instant) (resource : Resource) :
    series.finding? now resource = series.finding? other resource := by
  unfold finding?
  cases labels : series.container? with
  | none => rfl
  | some named =>
      rw [labels] at timed
      obtain ⟨time, known⟩ := Option.isSome_iff_exists.1 (timed rfl)
      simp only [timestamp_of_time? known]

theorem mergeInto_eq (now : Instant) (resource : Resource)
    (snapshot : UsageSnapshot α) (series : Series α) :
    mergeInto now resource snapshot series =
      match series.finding? now resource with
      | some finding => finding.merge snapshot
      | none => snapshot := by
  unfold mergeInto finding?
  cases series.container? <;> rfl

theorem mergeAll_eq (now : Instant) (resource : Resource)
    (snapshot : UsageSnapshot α) (list : List (Series α)) :
    mergeAll now resource snapshot list =
      (list.filterMap (finding? now resource)).foldl
        (fun snapshot finding => finding.merge snapshot) snapshot := by
  rw [List.foldl_filterMap]
  refine List.foldl_ext _ _ _ fun snapshot series _ => ?_
  rw [mergeInto_eq]
  cases series.finding? now resource <;> rfl

end Series

namespace UsageSnapshot

/-- What a snapshot shows of a container. -/
def container? (snapshot : UsageSnapshot α) (pod : PodName)
    (container : String) : Option (SortedMap Resource (Measurement α)) := do
  let usage ← snapshot.find? pod
  usage.containers.find? container

/-- What a snapshot shows of a resource of a container. -/
def measurement? (snapshot : UsageSnapshot α) (pod : PodName)
    (container : String) (resource : Resource) : Option (Measurement α) := do
  let measured ← container? snapshot pod container
  measured.find? resource

theorem container?_update (finding : Finding α)
    (known : Option (PodUsage α)) (container : String) :
    (finding.update known).containers.find? container =
      if container = finding.container then
        some (((known.bind fun usage =>
          usage.containers.find? container).getD ∅).insert
            finding.resource finding.measurement)
      else known.bind fun usage => usage.containers.find? container := by
  have containers : (finding.update known).containers =
      (known.getD (.empty finding.time)).containers.alter finding.container
        fun measured => (measured.getD ∅).insert finding.resource
          finding.measurement := rfl
  have earlier : (known.getD (.empty finding.time)).containers.find?
      container = known.bind fun usage =>
        usage.containers.find? container := by
    cases known <;> rfl
  rw [containers]
  by_cases same : container = finding.container
  · subst same
    rw [SortedMap.find?_alter_self, earlier, if_pos rfl]
  · rw [SortedMap.find?_alter_of_ne _ _ same, earlier, if_neg same]

theorem container?_merge (snapshot : UsageSnapshot α) (finding : Finding α)
    (pod : PodName) (container : String) :
    container? (finding.merge snapshot) pod container =
      if pod = finding.pod ∧ container = finding.container then
        some (((container? snapshot pod container).getD ∅).insert
          finding.resource finding.measurement)
      else container? snapshot pod container := by
  unfold container? Finding.merge
  by_cases same : pod = finding.pod
  · subst same
    rw [SortedMap.find?_alter_self]
    simpa using container?_update finding _ container
  · rw [SortedMap.find?_alter_of_ne _ _ same]
    simp [same]

theorem measurement?_merge (snapshot : UsageSnapshot α) (finding : Finding α)
    (pod : PodName) (container : String) (resource : Resource) :
    measurement? (finding.merge snapshot) pod container resource =
      if (pod, container, resource) = finding.place then
        some finding.measurement
      else measurement? snapshot pod container resource := by
  unfold measurement? Finding.place
  rw [container?_merge]
  by_cases same : pod = finding.pod ∧ container = finding.container
  · obtain ⟨rfl, rfl⟩ := same
    rw [if_pos ⟨rfl, rfl⟩]
    -- Other resources of the container keep what was measured before.
    by_cases own : resource = finding.resource
    · subst own
      rw [if_pos rfl]
      exact SortedMap.find?_insert_self _ _ _
    · have apart : (finding.pod, finding.container, resource) ≠
          (finding.pod, finding.container, finding.resource) := by
        simpa using own
      rw [if_neg apart]
      refine (SortedMap.find?_insert_of_ne _ _ own).trans ?_
      cases container? snapshot finding.pod finding.container <;> rfl
  · have apart : (pod, container, resource) ≠
        (finding.pod, finding.container, finding.resource) := by
      intro equal
      exact same ⟨congrArg Prod.fst equal,
        congrArg (fun place => place.2.1) equal⟩
    rw [if_neg same, if_neg apart]

theorem timestamp_merge (snapshot : UsageSnapshot α) (finding : Finding α)
    (pod : PodName) :
    ((finding.merge snapshot).find? pod).map PodUsage.timestamp =
      if pod = finding.pod then
        some (((snapshot.find? pod).map PodUsage.timestamp).elim finding.time
          fun time => max time finding.time)
      else (snapshot.find? pod).map PodUsage.timestamp := by
  unfold Finding.merge
  by_cases same : pod = finding.pod
  · subst same
    rw [SortedMap.find?_alter_self, if_pos rfl]
    cases snapshot.find? finding.pod with
    | none => exact congrArg some Std.max_self
    | some usage => rfl
  · rw [SortedMap.find?_alter_of_ne _ _ same, if_neg same]

section

variable {κ ν : Type} [Ord κ] [Std.TransOrd κ] [Std.LawfulEqOrd κ]

/-- Maps that may be absent are the same if they have the same look-ups and
are not empty where they are present. -/
theorem eq_of_bind_find?_eq {left right : Option (SortedMap κ ν)}
    (lookups : ∀ key, (left.bind fun map => map.find? key) =
      right.bind fun map => map.find? key)
    (leftHolds : ∀ map, left = some map →
      ∃ key value, map.find? key = some value)
    (rightHolds : ∀ map, right = some map →
      ∃ key value, map.find? key = some value) : left = right := by
  cases left with
  | none =>
      cases right with
      | none => rfl
      | some map =>
          obtain ⟨key, value, found⟩ := rightHolds map rfl
          cases (lookups key).trans found
  | some map =>
      cases right with
      | none =>
          obtain ⟨key, value, found⟩ := leftHolds map rfl
          cases (lookups key).symm.trans found
      | some other => exact congrArg some (SortedMap.eq_of_find?_eq lookups)

end

theorem eq_of_map_timestamp_eq {left right : Option (PodUsage α)}
    (timestamps : left.map PodUsage.timestamp =
      right.map PodUsage.timestamp)
    (containers : ∀ container,
      (left.bind fun usage => usage.containers.find? container) =
        right.bind fun usage => usage.containers.find? container) :
    left = right := by
  cases left with
  | none =>
      cases right with
      | none => rfl
      | some other => cases timestamps
  | some usage =>
      cases right with
      | none => cases timestamps
      | some other =>
          have maps : usage.containers = other.containers :=
            SortedMap.eq_of_find?_eq containers
          have times : usage.timestamp = other.timestamp :=
            Option.some.inj timestamps
          cases usage
          cases other
          cases maps
          cases times
          rfl

/-- A snapshot shows some findings and nothing else. -/
structure Shows (snapshot : UsageSnapshot α) (findings : List (Finding α)) :
    Prop where
  timestamps : ∀ pod, (snapshot.find? pod).map PodUsage.timestamp =
    ((findings.filter fun finding => finding.pod = pod).map
      Finding.time).max?
  measurements : ∀ pod container resource measurement,
    measurement? snapshot pod container resource = some measurement ↔
      ∃ finding ∈ findings, finding.place = (pod, container, resource) ∧
        finding.measurement = measurement
  /-- A container is there because of something measured in it. -/
  measured : ∀ pod container found,
    container? snapshot pod container = some found →
      ∃ resource measurement, found.find? resource = some measurement

theorem shows_empty : Shows (∅ : UsageSnapshot α) [] where
  timestamps pod := rfl
  measurements pod container resource measurement := by
    simp [measurement?, container?]
  measured pod container found known := by cases known

theorem Shows.merge {snapshot : UsageSnapshot α}
    {findings : List (Finding α)} (shows : Shows snapshot findings)
    {finding : Finding α} (new : finding.place ∉ findings.map Finding.place) :
    Shows (finding.merge snapshot) (findings ++ [finding]) where
  timestamps pod := by
    rw [timestamp_merge, shows.timestamps, List.filter_append,
      List.map_append]
    by_cases same : pod = finding.pod
    · have single : [finding].filter (fun finding => finding.pod = pod) =
          [finding] := by simp [same]
      rw [if_pos same, single, List.map_singleton, max?_concat]
      cases ((findings.filter fun finding => finding.pod = pod).map
        Finding.time).max? <;> rfl
    · have none : [finding].filter (fun finding => finding.pod = pod) =
          [] := by simp [Ne.symm same]
      rw [if_neg same, none, List.map_nil, List.append_nil]
  measurements pod container resource measurement := by
    rw [measurement?_merge]
    by_cases own : (pod, container, resource) = finding.place
    · rw [if_pos own, Option.some.injEq]
      constructor
      · intro same
        exact ⟨finding, by simp, own.symm, same⟩
      · rintro ⟨other, member, place, same⟩
        rcases List.mem_append.1 member with earlier | last
        · rw [own] at place
          exact absurd (place ▸ List.mem_map_of_mem earlier) new
        · rw [← List.mem_singleton.1 last, same]
    · rw [if_neg own, shows.measurements]
      constructor
      · rintro ⟨other, member, told⟩
        exact ⟨other, List.mem_append_left _ member, told⟩
      · rintro ⟨other, member, place, same⟩
        rcases List.mem_append.1 member with earlier | last
        · exact ⟨other, earlier, place, same⟩
        · rw [List.mem_singleton.1 last] at place
          exact absurd place.symm own
  measured pod container found known := by
    rw [container?_merge] at known
    split at known
    next same =>
      obtain rfl := Option.some.inj known
      exact ⟨_, _, SortedMap.find?_insert_self _ _ _⟩
    next => exact shows.measured pod container found known

/-- Nothing of a snapshot is left open by what it shows. -/
theorem Shows.eq_of_perm {left right : UsageSnapshot α}
    {leftFindings rightFindings : List (Finding α)}
    (leftShows : Shows left leftFindings)
    (rightShows : Shows right rightFindings)
    (same : leftFindings.Perm rightFindings) : left = right := by
  have timestamps : ∀ pod, (left.find? pod).map PodUsage.timestamp =
      (right.find? pod).map PodUsage.timestamp := by
    intro pod
    rw [leftShows.timestamps, rightShows.timestamps]
    exact max?_eq_of_perm ((same.filter _).map _)
  have measurements : ∀ pod container resource,
      measurement? left pod container resource =
        measurement? right pod container resource := by
    intro pod container resource
    ext measurement
    rw [leftShows.measurements, rightShows.measurements]
    simp only [same.mem_iff]
  -- Without empty containers, the measurements tell which ones there are.
  have containers : ∀ pod container,
      container? left pod container = container? right pod container :=
    fun pod container => eq_of_bind_find?_eq (measurements pod container)
      (leftShows.measured pod container) (rightShows.measured pod container)
  exact SortedMap.eq_of_find?_eq fun pod =>
    eq_of_map_timestamp_eq (timestamps pod) (containers pod)

/-- Findings for different places, merged one after another. -/
theorem shows_foldl {findings : List (Finding α)}
    (distinct : (findings.map Finding.place).Nodup) :
    Shows (findings.foldl Finding.merge ∅) findings := by
  induction findings using List.reverseRecOn with
  | nil => exact shows_empty
  | append_singleton findings finding induction =>
      rw [List.map_append, List.nodup_append] at distinct
      obtain ⟨earlier, -, apart⟩ := distinct
      rw [List.foldl_concat]
      refine (induction earlier).merge fun member => ?_
      exact apart _ member _ (List.mem_singleton_self _) rfl

end UsageSnapshot

/-- The series that answer the queries for some resources. -/
abbrev Answers (α : Type) := List (Resource × List (Series α))

namespace Answers

/-- The same answers, if need be in another order and with the series of each
in another order. -/
def Reordered (left right : Answers α) : Prop :=
  ∃ middle : Answers α, left.Perm middle ∧
    List.Forall₂ (fun first second =>
      first.1 = second.1 ∧ first.2.Perm second.2) middle right

/-- No resource has two answers, and no container two series in one answer. -/
structure Distinct (answers : Answers α) : Prop where
  resources : (answers.map Prod.fst).Nodup
  containers : ∀ answer ∈ answers,
    (answer.2.filterMap Series.container?).Nodup

variable [Scalar α]

/-- The calendar has the times of all labelled series. -/
def Timed (answers : Answers α) : Prop :=
  ∀ answer ∈ answers, ∀ series ∈ answer.2,
    series.container?.isSome → series.time?.isSome

/-- Merge some answers, one after another. -/
def gather (now : Instant) (answers : Answers α) : UsageSnapshot α :=
  answers.foldl
    (fun snapshot answer =>
      Series.mergeAll now answer.1 snapshot answer.2) ∅

def findings (now : Instant) (answers : Answers α) : List (Finding α) :=
  answers.flatMap fun answer =>
    answer.2.filterMap (Series.finding? now answer.1)

/-- The times of the labelled series of a pod. -/
def times (answers : Answers α) (pod : PodName) : List Instant :=
  answers.flatMap fun answer => answer.2.filterMap fun series => do
    let (other, _) ← series.container?
    if other = pod then series.time? else none

theorem gather_eq (now : Instant) (answers : Answers α) :
    gather now answers = (findings now answers).foldl Finding.merge ∅ := by
  unfold gather findings
  rw [List.foldl_flatMap]
  simp only [Series.mergeAll_eq]

/-- The places of the findings of one answer. -/
theorem places_eq (now : Instant) (resource : Resource)
    (list : List (Series α)) :
    (list.filterMap (Series.finding? now resource)).map Finding.place =
      (list.filterMap Series.container?).map fun named =>
        (named.1, named.2, resource) := by
  rw [List.map_filterMap, List.map_filterMap]
  refine List.filterMap_congr fun series _ => ?_
  unfold Series.finding?
  cases series.container? <;> rfl

theorem Distinct.places {answers : Answers α} (distinct : Distinct answers)
    (now : Instant) : ((findings now answers).map Finding.place).Nodup := by
  unfold findings
  rw [List.map_flatMap]
  simp only [places_eq]
  refine List.nodup_flatMap.2 ⟨?_, ?_⟩
  · intro answer member
    refine (distinct.containers answer member).map ?_
    rintro ⟨pod, container⟩ ⟨other, another⟩ same
    simp_all
  · -- Findings of two answers differ in the resource.
    refine (List.pairwise_map.1 distinct.resources).imp ?_
    intro first second different place firstMember secondMember
    obtain ⟨_, -, rfl⟩ := List.mem_map.1 firstMember
    obtain ⟨_, -, same⟩ := List.mem_map.1 secondMember
    exact different (congrArg (fun place => place.2.2) same).symm

theorem Reordered.findings {left right : Answers α}
    (reordered : Reordered left right) (now : Instant) :
    (findings now left).Perm (findings now right) := by
  obtain ⟨middle, permuted, pairs⟩ := reordered
  refine (permuted.flatMap_right _).trans ?_
  unfold Answers.findings
  clear permuted
  induction pairs with
  | nil => exact .refl _
  | cons pair _ induction =>
      obtain ⟨resource, series⟩ := pair
      rw [List.flatMap_cons, List.flatMap_cons, resource]
      exact (series.filterMap _).append induction

theorem Timed.findings_eq {answers : Answers α} (timed : Timed answers)
    (now other : Instant) : findings now answers = findings other answers := by
  refine List.flatMap_congr fun answer member => ?_
  refine List.filterMap_congr fun series listed => ?_
  exact Series.finding?_eq (timed answer member series listed) _ _ _

theorem Timed.times_eq {answers : Answers α} (timed : Timed answers)
    (now : Instant) (pod : PodName) :
    ((findings now answers).filter fun finding => finding.pod = pod).map
      Finding.time = times answers pod := by
  unfold findings times
  rw [List.filter_flatMap, List.map_flatMap]
  refine List.flatMap_congr fun answer member => ?_
  rw [List.filter_filterMap, List.map_filterMap]
  refine List.filterMap_congr fun series listed => ?_
  have known := timed answer member series listed
  unfold Series.finding?
  cases labels : series.container? with
  | none => rfl
  | some named =>
      rw [labels] at known
      obtain ⟨time, shown⟩ := Option.isSome_iff_exists.1 (known rfl)
      by_cases same : named.1 = pod <;>
        simp [Option.filter, same, shown, Series.timestamp_of_time? shown]

theorem mem_findings_iff {answers : Answers α} {now : Instant}
    {pod : PodName} {container : String} {resource : Resource}
    {measurement : Measurement α} :
    (∃ finding ∈ findings now answers,
      finding.place = (pod, container, resource) ∧
        finding.measurement = measurement) ↔
      ∃ answer ∈ answers, answer.1 = resource ∧
        ∃ series ∈ answer.2, series.container? = some (pod, container) ∧
          series.measurement = measurement := by
  constructor
  · rintro ⟨finding, member, place, same⟩
    obtain ⟨answer, listed, found⟩ := List.mem_flatMap.1 member
    obtain ⟨series, given, told⟩ := List.mem_filterMap.1 found
    obtain ⟨named, labels, rfl⟩ := Option.map_eq_some_iff.1 told
    obtain ⟨rfl, rest⟩ := Prod.mk.inj place
    obtain ⟨rfl, rfl⟩ := Prod.mk.inj rest
    exact ⟨answer, listed, rfl, series, given, labels, same⟩
  · rintro ⟨answer, listed, rfl, series, given, labels, rfl⟩
    refine ⟨⟨pod, container, answer.1, series.timestamp now,
      series.measurement⟩, ?_, rfl, rfl⟩
    refine List.mem_flatMap.2 ⟨answer, listed, ?_⟩
    refine List.mem_filterMap.2 ⟨series, given, ?_⟩
    rw [Series.finding?, labels]
    rfl

/-- The snapshot that is merged from some answers does not depend on the order
of the answers and of the series in each.  It shows the measurement of every
labelled series in its place and nothing else, and as the time of each pod the
latest one among its labelled series. -/
theorem gathered_in_any_order (answers : Answers α)
    (distinct : Distinct answers) (timed : Timed answers)
    (now other : Instant) :
    (∀ reordered, Reordered answers reordered →
      gather other reordered = gather now answers) ∧
    (∀ pod container resource measurement,
      UsageSnapshot.measurement? (gather now answers) pod container
          resource = some measurement ↔
        ∃ answer ∈ answers, answer.1 = resource ∧
          ∃ series ∈ answer.2, series.container? = some (pod, container) ∧
            series.measurement = measurement) ∧
    (∀ pod container found,
      UsageSnapshot.container? (gather now answers) pod container =
          some found →
        ∃ resource measurement, found.find? resource = some measurement) ∧
    ∀ pod, ((gather now answers).find? pod).map PodUsage.timestamp =
      (times answers pod).max? := by
  have shows : UsageSnapshot.Shows (gather now answers)
      (findings now answers) := by
    rw [gather_eq]
    exact UsageSnapshot.shows_foldl (distinct.places now)
  refine ⟨?_, ?_, shows.measured, ?_⟩
  · intro reordered same
    -- The present is of no account to series that are timed.
    have permuted := same.findings other
    rw [timed.findings_eq other now] at permuted
    have places := ((permuted.map Finding.place).nodup_iff).1
      (distinct.places now)
    rw [gather_eq other reordered]
    exact (UsageSnapshot.shows_foldl places).eq_of_perm shows permuted.symm
  · intro pod container resource measurement
    rw [shows.measurements, mem_findings_iff]
  · intro pod
    rw [shows.timestamps, timed.times_eq]

/-- A back end that fetches a snapshot has gathered it from an answer to each
of its queries. -/
theorem exists_gather_of_fetch {backend : QueryBackend}
    {server : Http.Server} {now : Instant} {snapshot : UsageSnapshot α}
    (fetched : (backend.fetch server now).outcome = .ok snapshot) :
    ∃ answers : Answers α,
      answers.map Prod.fst = backend.effectiveQueries.keys ∧
        gather now answers = snapshot := by
  obtain ⟨path, -, merged⟩ := Http.Exchange.outcome_bind_eq_ok.1 fetched
  unfold gather SortedMap.keys
  generalize backend.effectiveQueries.entries = queries at merged ⊢
  generalize (∅ : UsageSnapshot α) = start at merged ⊢
  induction queries generalizing start with
  | nil =>
      exact ⟨[], rfl, Except.ok.inj merged⟩
  | cons query queries induction =>
      rw [List.foldlM_cons] at merged
      obtain ⟨next, stepped, rest⟩ :=
        Http.Exchange.outcome_bind_eq_ok.1 merged
      obtain ⟨list, -, done⟩ := Http.Exchange.outcome_bind_eq_ok.1 stepped
      obtain rfl : _ = next := Except.ok.inj done
      obtain ⟨answers, resources, same⟩ := induction _ rest
      refine ⟨(query.1, list) :: answers, ?_, same⟩
      rw [List.map_cons, List.map_cons, resources]

section Witness

open Exact

/-- A series of a container, timed in whole seconds. -/
noncomputable def labelled (pod container : String) (seconds : Int)
    (value : String) : Series ℝ :=
  ⟨SortedMap.ofList [("namespace", "default"), ("pod", pod),
    ("container", container)], seconds, value⟩

theorem container?_labelled (pod container : String) (seconds : Int)
    (value : String) :
    (labelled pod container seconds value).container? =
      some (⟨"default", pod⟩, container) := by
  simp [labelled, Series.container?, SortedMap.ofList, SortedMap.insertAll,
    SortedMap.find?_insert]

theorem time?_labelled (pod container : String) (seconds : Int)
    (value : String) :
    (labelled pod container seconds value).time? =
      Instant.ofMilliseconds? (max (-Int.pow 2 63)
        (min (Int.pow 2 63 - 1) (seconds * 1000))) := by
  have product : (labelled pod container seconds value).seconds *
      Scalar.scientific 1000 0 = ((seconds * 1000 : Int) : ℝ) := by
    simp [labelled]
  rw [Series.time?, product, truncate_intCast]

/-- A series of a pod that names no container. -/
noncomputable def unlabelled : Series ℝ :=
  ⟨SortedMap.ofList [("namespace", "default"), ("pod", "web-2")], 5, "9"⟩

theorem container?_unlabelled : unlabelled.container? = none := by
  have absent : unlabelled.labels.find? "container" = none := by decide
  simp [Series.container?, absent]

/-- Two resources of a pod with two containers. -/
noncomputable def polled : Answers ℝ :=
  [(.cpu, [labelled "web-1" "app" 60 "0.25",
      labelled "web-1" "proxy" 61 "0.01", unlabelled]),
    (.memory, [labelled "web-1" "app" 59 "512Mi"])]

theorem distinct_polled : Distinct polled := by
  refine ⟨by decide, ?_⟩
  simp [polled, container?_labelled, container?_unlabelled]

theorem time?_polled (pod container value : String) :
    (labelled pod container 59 value).time? = some ⟨59, 0⟩ ∧
      (labelled pod container 60 value).time? = some ⟨60, 0⟩ ∧
      (labelled pod container 61 value).time? = some ⟨61, 0⟩ := by
  simp only [time?_labelled]
  decide

theorem timed_polled : Timed polled := by
  simp [Timed, polled, container?_unlabelled, time?_polled]

omit [Scalar α] in
theorem reordered_reverse (answers : Answers α) :
    Reordered answers
      (answers.reverse.map fun answer => (answer.1, answer.2.reverse)) := by
  refine ⟨answers.reverse, (List.reverse_perm _).symm, ?_⟩
  rw [List.forall₂_map_right_iff, List.forall₂_same]
  exact fun answer _ => ⟨rfl, (List.reverse_perm _).symm⟩

theorem polled_in_reverse :
    Distinct polled ∧ Timed polled ∧
      gather ⟨5, 0⟩ (polled.reverse.map fun answer =>
        (answer.1, answer.2.reverse)) = gather ⟨7, 0⟩ polled ∧
      UsageSnapshot.measurement? (gather ⟨7, 0⟩ polled)
        ⟨"default", "web-1"⟩ "app" .memory = some (.text "512Mi") ∧
      ((gather ⟨7, 0⟩ polled).find? ⟨"default", "web-1"⟩).map
        PodUsage.timestamp = some ⟨61, 0⟩ ∧
      ((gather ⟨7, 0⟩ polled).find? ⟨"default", "web-2"⟩).map
        PodUsage.timestamp = none := by
  obtain ⟨order, measurements, -, timestamps⟩ := gathered_in_any_order polled
    distinct_polled timed_polled ⟨7, 0⟩ ⟨5, 0⟩
  refine ⟨distinct_polled, timed_polled,
    order _ (reordered_reverse polled), ?_, ?_, ?_⟩
  · exact (measurements _ _ _ _).2 ⟨_, List.mem_cons_of_mem _
      (List.mem_singleton_self _), rfl, _, List.mem_singleton_self _,
      container?_labelled _ _ _ _, rfl⟩
  · rw [timestamps]
    simp [times, polled, container?_labelled, container?_unlabelled,
      time?_polled]
    decide
  · rw [timestamps]
    simp [times, polled, container?_labelled, container?_unlabelled]

end Witness

end Answers

end UsageForecast
