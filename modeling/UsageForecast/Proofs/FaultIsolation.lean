import UsageForecast.Proofs.Contrast
import UsageForecast.Proofs.SampleOrder

/-!
# The isolation of faults

A value that cannot be read is left out and harms nothing else: whatever a
back end says of one resource of one container of a pod, all other estimators
are the same after a cycle, and the one of the resource differs by what was
read for this pod.  A source that does not answer at all is to its profiler as
if the spec did not name it, but for the failures that are reported.

Two cycles may get their answers in different orders.  Then the estimators are
made of the same samples, and are the same without rounding.

One record of times serves all sources of a resource.  Where another source
has a reading for the same pod, container and resource, a value that cannot be
read makes way for it.
-/

namespace UsageForecast

theorem flatMap_filter_of_empty {β γ : Type} {members : List β}
    {keep : β → Bool} {contribution : β → List γ}
    (dropped : ∀ member, keep member = false → contribution member = []) :
    (members.filter keep).flatMap contribution =
      members.flatMap contribution := by
  induction members with
  | nil => rfl
  | cons member members induction =>
      cases kept : keep member with
      | true =>
          rw [List.filter_cons_of_pos kept, List.flatMap_cons,
            List.flatMap_cons, induction]
      | false =>
          rw [List.filter_cons_of_neg (by simp [kept]), List.flatMap_cons,
            dropped member kept, induction, List.nil_append]

namespace Spec

variable {α : Type}

/-- A spec that does not name a source. -/
def without (spec : Spec α) (source : Source) : Spec α :=
  { spec with
    selections := spec.selections.filter fun selection =>
      selection.source ≠ source }

/-- Only the queries of the source are missing. -/
theorem flatMap_queries_without [Scalar α] {β : Type} (spec : Spec α)
    {source : Source} {contribution : Source × Resource → List β}
    (silent : ∀ resource, contribution (source, resource) = []) :
    (spec.without source).queries.flatMap contribution =
      spec.queries.flatMap contribution := by
  unfold queries without
  rw [List.flatMap_assoc, List.flatMap_assoc]
  refine flatMap_filter_of_empty fun selection dropped => ?_
  obtain rfl : selection.source = source := by simpa using dropped
  simp [List.flatMap_eq_nil_iff, silent]

end Spec

namespace Profiler

/-- An outcome but for the failures that the cycle has met. -/
def Outcome.withoutFailures : Outcome → Outcome
  | .completed report => .completed { report with failures := [] }
  | other => other

variable {σ α : Type} [Analytic α]

section

variable {settings : Settings α} {resolver : Resolver}
  {repository : Repository α} {now : Instant} {pods : List Pod}
  {profiler : Profiler α} {name : String} {resource : Resource}

/-- Entries that are offered the same become the same. -/
theorem find?_advance_congr {other : Repository α}
    (served :
      (profiler.offersFor resolver repository pods).map (·.1) =
        (profiler.offersFor resolver other pods).map (·.1))
    (offered : profiler.offersTo resolver repository pods name =
      profiler.offersTo resolver other pods name) :
    (profiler.advance settings resolver repository now pods).entries.find?
        name =
      (profiler.advance settings resolver other now pods).entries.find?
        name := by
  rw [find?_advance, find?_advance, find?_served, find?_served, served,
    offered]

private theorem served_alike {left right : Repository α}
    (level : profiler.key.level = .container) :
    (profiler.offersFor resolver left pods).map (·.1) =
      (profiler.offersFor resolver right pods).map (·.1) := by
  rw [offersFor_container level, offersFor_container level, List.map_map,
    List.map_map]
  rfl

/-- Nothing but the estimator of the place where two caches differ tells them
apart, if their answers come in the same order. -/
theorem estimator?_of_contrast (contrast : Contrast α) (hashes : Hashes)
    (level : profiler.key.level = .container)
    (apart : (name, resource) ≠ (contrast.container, contrast.resource)) :
    (profiler.advance settings resolver (contrast.left.seeded hashes) now
        pods).estimator? name resource =
      (profiler.advance settings resolver (contrast.right.seeded hashes) now
        pods).estimator? name resource := by
  by_cases same : name = contrast.container
  · subst same
    have different : resource ≠ contrast.resource := by
      rintro rfl
      exact apart rfl
    by_cases covered :
        Covers resolver profiler.key.target pods contrast.container
    · rw [estimator?_of_kept resource
          (kept_of_covers _ settings now level covered),
        estimator?_of_kept resource
          (kept_of_covers _ settings now level covered),
        offersTo_of_mem (mem_offersFor_container _ level covered),
        offersTo_of_mem (mem_offersFor_container _ level covered),
        contrast.samplesFor_of_ne different]
    · rw [estimator?, estimator?, find?_advance_congr (served_alike level)]
      rw [offersTo_of_uncovered level covered,
        offersTo_of_uncovered level covered]
  · rw [estimator?, estimator?, find?_advance_congr (served_alike level)]
    by_cases covered : Covers resolver profiler.key.target pods name
    · rw [offersTo_of_mem (mem_offersFor_container _ level covered),
        offersTo_of_mem (mem_offersFor_container _ level covered)]
      refine congrArg profiler.spec.queries.flatMap (funext fun query => ?_)
      exact contrast.queryOffers_of_apart fun equal =>
        same (Prod.mk.inj equal).1
    · rw [offersTo_of_uncovered level covered,
        offersTo_of_uncovered level covered]

/-- The estimators of the place where two caches differ are made of the same
samples, but for what either cache reads there, and the order of the answers
is the order of the samples. -/
theorem estimators_of_contrast (settings : Settings α) (resolver : Resolver)
    (now : Instant) (pods : List Pod) (contrast : Contrast α)
    (level : profiler.key.level = .container)
    (settled : (contrast.shown? contrast.left).isSome =
      (contrast.shown? contrast.right).isSome ∨
        contrast.Sole profiler.spec.queries) :
    ∃ known, ∃ pieces : Hashes → List (Option (Sample α)),
      (∀ hashes others, (pieces hashes).Perm (pieces others)) ∧
      ((∀ hashes, pieces hashes = []) ∨
        known = (profiler.estimator? contrast.container
          contrast.resource).map fun estimator =>
            estimator.decay (profiler.cycleFactor settings)) ∧
      (∀ side, contrast.Has side → ∀ hashes,
        (profiler.advance settings resolver (side.seeded hashes) now
            pods).estimator? contrast.container contrast.resource =
          Estimator.ingestAll profiler.spec.quantiles contrast.resource known
            ((pieces hashes).filterMap fun piece => piece.or
              (contrast.shown? side))) ∧
      (contrast.Sole profiler.spec.queries →
        ∀ hashes, (pieces hashes).countP Option.isNone ≤ 1) := by
  by_cases covered :
      Covers resolver profiler.key.target pods contrast.container
  · refine ⟨_, fun hashes => piecesFor contrast.resource
      (taken (profiler.lastFolded? contrast.container)
        (contrast.plan hashes profiler.key profiler.spec.queries
          (pods.map Pod.id))), fun hashes others => ?_, .inr rfl,
      fun side has hashes => ?_, fun sole _ => contrast.count_gaps_le_one sole⟩
    · have slots := contrast.sameSlots_plan hashes others profiler.key
        profiler.spec.queries (pods.map Pod.id)
      exact ((slots.taken _).perm.filter _).map _
    · rw [estimator?_of_kept contrast.resource
          (kept_of_covers _ settings now level covered),
        offersTo_of_mem (mem_offersFor_container _ level covered),
        contrast.samples_of_plan has settled]
  · have nothing (side : Repository α) :
        profiler.offersTo resolver side pods contrast.container = [] :=
      offersTo_of_uncovered level covered
    refine ⟨(profiler.advance settings resolver contrast.left now
      pods).estimator? contrast.container contrast.resource, fun _ => [],
      fun _ _ => .refl _, .inl fun _ => rfl, fun side _ hashes => ?_,
      fun _ _ => Nat.zero_le 1⟩
    change (SortedMap.find? _ _).bind _ = (SortedMap.find? _ _).bind _
    rw [find?_advance_congr (served_alike level)
      ((nothing (side.seeded hashes)).trans (nothing contrast.left).symm)]

/-- A source that does not answer offers nothing. -/
theorem offersFor_without {source : Source}
    (silent : repository.snapshot? source = none) :
    (profiler.storeSpec (profiler.spec.without source)).offersFor resolver
        repository pods =
      profiler.offersFor resolver repository pods := by
  have key : (profiler.storeSpec (profiler.spec.without source)).key =
      profiler.key := rfl
  cases level : profiler.key.level with
  | container =>
      rw [offersFor_container level, offersFor_container (key ▸ level)]
      refine List.map_congr_left fun container _ => ?_
      refine congrArg (Prod.mk container)
        (Spec.flatMap_queries_without _ fun resource => ?_)
      simp [queryOffers_eq, Repository.reading?_of_silent silent]
  | pod =>
      rw [offersFor_pod level, offersFor_pod (key ▸ level)]
      refine congrArg (fun offered => [(podEntry, offered)])
        (Spec.flatMap_queries_without _ fun resource => ?_)
      have asked : Asked (containerNames resolver profiler.key.target pods)
          pods := fun pod resolved container listed =>
        mem_containerNames_iff.2 (.inl ⟨pod, resolved, listed⟩)
      refine List.eq_nil_iff_forall_not_mem.2 fun offer member => ?_
      obtain ⟨pod, -, first, rest, whole, -⟩ :=
        (mem_totalOffers_iff asked).1 member
      have read : some first ∈
          podReadings repository (source, resource) pod := by
        rw [whole]
        exact List.mem_cons_self
      obtain ⟨container, -, shown⟩ := List.mem_map.1 read
      rw [Repository.reading?_of_silent silent] at shown
      cases shown

private theorem finish_storeSpec [CheckpointStore σ α]
    {found : Nat} {tally other : Tally} (store : σ) (spec : Spec α)
    (samples : other.samples = tally.samples) :
    let cycle := Observation.finish ⟨profiler, found, tally⟩ now store
    let narrowed :=
      Observation.finish ⟨profiler.storeSpec spec, found, other⟩ now store
    narrowed.profiler = cycle.profiler.storeSpec spec ∧
      narrowed.store = cycle.store ∧
      narrowed.outcome.withoutFailures = cycle.outcome.withoutFailures := by
  intro cycle narrowed
  have same : (profiler.storeSpec spec).Reportable ↔ profiler.Reportable :=
    Iff.rfl
  have saved : (profiler.storeSpec spec).checkpoint now =
      profiler.checkpoint now := rfl
  simp only [cycle, narrowed, Observation.finish, same, saved]
  by_cases reportable : profiler.Reportable
  · simp only [if_pos reportable, true_and]
    refine ⟨rfl, ?_⟩
    cases (CheckpointStore.save store (profiler.checkpoint now)).2 <;>
      simp [Outcome.withoutFailures, Tally.fail, samples, storeSpec]
  · simp only [if_neg reportable, and_self]

variable (settings resolver repository now profiler) in
/-- A cycle leaves behind what it would without a source that does not
answer, but for the failures that it reports. -/
theorem profile_without [CheckpointStore σ α] {source : Source}
    (silent : repository.snapshot? source = none) (store : σ) :
    let spec := profiler.spec.without source
    let cycle := profiler.profile settings resolver repository now store
    let narrowed := (profiler.storeSpec spec).profile settings resolver
      repository now store
    narrowed.profiler = cycle.profiler.storeSpec spec ∧
      narrowed.store = cycle.store ∧
      narrowed.outcome.withoutFailures = cycle.outcome.withoutFailures := by
  intro spec cycle narrowed
  cases found : resolver.pods profiler.key.target with
  | error failure =>
      have unresolved :
          resolver.pods (profiler.storeSpec spec).key.target =
            .error failure := found
      simp only [cycle, narrowed,
        profile_of_unresolved settings repository now store found,
        profile_of_unresolved settings repository now store unresolved,
        and_self]
  | ok pods =>
      have resolved : resolver.pods (profiler.storeSpec spec).key.target =
          .ok pods := found
      have served : (profiler.storeSpec spec).served settings resolver
          repository now pods =
            profiler.served settings resolver repository now pods := by
        rw [Profiler.served, offersFor_without silent]
        rfl
      have advanced : (profiler.storeSpec spec).advance settings resolver
          repository now pods =
            (profiler.advance settings resolver repository now
              pods).storeSpec spec := by
        rw [advance, served]
        rfl
      simp only [cycle, narrowed,
        profile_of_resolved settings repository now store found,
        profile_of_resolved settings repository now store resolved, advanced]
      refine finish_storeSpec store spec ?_
      rw [samples_tally, samples_tally, served]

end

/-- The estimators that two cycles leave, whatever the hashes of the answers
are.  With the same hashes they are identical.  With any hashes they are made of
the same samples, which are folded into the estimator from before unless there
are none; without rounding they are then identical, too. -/
structure Alike (quantiles : List (Quantile α)) (resource : Resource)
    (before : Option (Estimator α))
    (left right : Hashes → Option (Estimator α)) : Prop where
  same : ∀ hashes, left hashes = right hashes
  folded : ∃ known, ∃ samples : Hashes → List (Sample α),
    (∀ hashes others, (samples hashes).Perm (samples others)) ∧
    ((∀ hashes, samples hashes = []) ∨ known = before) ∧
    (∀ hashes, left hashes =
      Estimator.ingestAll quantiles resource known (samples hashes)) ∧
    (Estimator.Orderless α → ∀ hashes others,
      (Estimator.counted known).toNat + (samples hashes).length <
          UInt64.size →
        left hashes = right others)

/-- A cycle leaves estimators that are alike to all that equal them. -/
theorem alike_of_cycle [CheckpointStore σ α] {settings : Settings α}
    {resolver : Resolver} {repository : Repository α} {now : Instant}
    {store : σ} {profiler : Profiler α} {name : String}
    {resource : Resource} {left right : Hashes → Option (Estimator α)}
    (made : ∀ hashes, left hashes =
      (profiler.profile settings resolver (repository.seeded hashes) now
        store).profiler.estimator? name resource)
    (same : ∀ hashes, left hashes = right hashes) :
    Alike profiler.spec.quantiles resource
      ((profiler.estimator? name resource).map fun estimator =>
        estimator.decay (profiler.cycleFactor settings)) left right := by
  refine ⟨same, ?_⟩
  cases found : resolver.pods profiler.key.target with
  | error failure =>
      have kept (hashes : Hashes) :
          left hashes = profiler.estimator? name resource := by
        rw [made, profiler_of_unresolved found]
      exact ⟨_, fun _ => [], fun _ _ => .refl _, .inl fun _ => rfl, kept,
        fun _ hashes others _ => by rw [← same, kept, kept]⟩
  | ok pods =>
      obtain ⟨known, samples, perm, before, folded⟩ :=
        estimator?_advance_seeded resolver repository pods profiler settings
          now name resource
      have advanced (hashes : Hashes) : left hashes =
          Estimator.ingestAll profiler.spec.quantiles resource known
            (samples hashes) := by
        rw [made, estimator?, entries_profile found]
        exact folded hashes
      refine ⟨known, samples, perm, before, advanced,
        fun orderless hashes others room => ?_⟩
      rw [← same, advanced, advanced]
      exact orderless _ _ _ _ _ (perm hashes others) room

/-- What a back end says of one resource of one container of a pod matters to
no other estimator: it adds a sample to the estimator of the resource, or none
if it cannot be read.  And a source without a snapshot leaves a profiler as if
its spec did not name it, but for the failures that are reported. -/
theorem faults_isolated [CheckpointStore σ α] (settings : Settings α)
    (resolver : Resolver) (repository : Repository α) (now : Instant)
    (store : σ) (profiler : Profiler α) :
    let decayed (name : String) (asked : Resource) :=
      (profiler.estimator? name asked).map fun estimator =>
        estimator.decay (profiler.cycleFactor settings)
    (profiler.key.level = .container →
      ∀ (source : Source) (fetched : Instant) (pod : PodName)
        (container : String) (resource : Resource)
        (left right : Except String (UsageSnapshot α)),
      FetchesDiffer pod container resource left right →
      let caches (outcome : Except String (UsageSnapshot α)) :=
        (repository.refresh fetched source outcome).1
      let next (outcome : Except String (UsageSnapshot α))
          (hashes : Hashes) :=
        (profiler.profile settings resolver
          ((caches outcome).seeded hashes) now store).profiler
      let shown (outcome : Except String (UsageSnapshot α)) :=
        (caches outcome).reading? source resource container pod
      let sole := ∀ other, (other, resource) ∈ profiler.spec.queries →
        other ≠ source →
          repository.reading? other resource container pod = none
      (∀ name asked, (name, asked) ≠ (container, resource) →
        Alike profiler.spec.quantiles asked (decayed name asked)
          (fun hashes => (next left hashes).estimator? name asked)
          (fun hashes => (next right hashes).estimator? name asked)) ∧
      ((shown left).isSome = (shown right).isSome ∨ sole →
        ∃ known, ∃ pieces : Hashes → List (Option (Sample α)),
          (∀ hashes others, (pieces hashes).Perm (pieces others)) ∧
          ((∀ hashes, pieces hashes = []) ∨
            known = decayed container resource) ∧
          (∀ outcome ∈ [left, right], ∀ hashes,
            (next outcome hashes).estimator? container resource =
              Estimator.ingestAll profiler.spec.quantiles resource known
                ((pieces hashes).filterMap fun piece =>
                  piece.or (shown outcome))) ∧
          (sole → ∀ hashes, (pieces hashes).countP Option.isNone ≤ 1))) ∧
    ∀ source, repository.snapshot? source = none →
      let spec := profiler.spec.without source
      let cycle (hashes : Hashes) := profiler.profile settings resolver
        (repository.seeded hashes) now store
      let narrowed (hashes : Hashes) := (profiler.storeSpec spec).profile
        settings resolver (repository.seeded hashes) now store
      (∀ hashes,
        (narrowed hashes).profiler =
            (cycle hashes).profiler.storeSpec spec ∧
          (narrowed hashes).store = (cycle hashes).store ∧
          (narrowed hashes).outcome.withoutFailures =
            (cycle hashes).outcome.withoutFailures) ∧
      ∀ name asked,
        Alike profiler.spec.quantiles asked (decayed name asked)
          (fun hashes => (cycle hashes).profiler.estimator? name asked)
          (fun hashes =>
            (narrowed hashes).profiler.estimator? name asked) := by
  intro decayed
  refine ⟨?isolated, ?removed⟩
  case removed =>
    intro source silent spec cycle narrowed
    have without (hashes : Hashes) := profile_without settings resolver
      (repository.seeded hashes) now profiler silent store
    refine ⟨without, fun name asked =>
      alike_of_cycle (fun _ => rfl) fun hashes => ?_⟩
    exact (congrArg (·.estimator? name asked) (without hashes).1).symm
  case isolated =>
    intro level source fetched pod container resource left right differ
      caches next shown sole
    let contrast : Contrast α := ⟨caches left, caches right, source, pod,
      container, resource, differ.sameBut repository fetched source⟩
    have has : ∀ outcome ∈ [left, right], contrast.Has (caches outcome) := by
      simp [contrast, Contrast.Has]
    cases found : resolver.pods profiler.key.target with
    | error failure =>
        have same (outcome : Except String (UsageSnapshot α))
            (hashes : Hashes) : next outcome hashes = profiler :=
          profiler_of_unresolved found
        refine ⟨fun name asked _ => alike_of_cycle (fun _ => rfl)
          fun hashes => ?_, fun _ =>
            ⟨profiler.estimator? container resource, fun _ => [],
              fun _ _ => .refl _, .inl fun _ => rfl,
              fun outcome _ hashes => ?_, fun _ _ => Nat.zero_le 1⟩⟩
        · rw [same, same]
        · rw [same]
          rfl
    | ok pods =>
        have advanced (outcome : Except String (UsageSnapshot α))
            (hashes : Hashes) (name : String) (asked : Resource) :
            (next outcome hashes).estimator? name asked =
              (profiler.advance settings resolver
                ((caches outcome).seeded hashes) now pods).estimator? name
                  asked := by
          rw [estimator?, entries_profile found, estimator?]
        have unaffected : sole → contrast.Sole profiler.spec.queries :=
          fun only other asked different =>
            (Repository.reading?_refresh_of_ne different).trans
              (only other asked different)
        refine ⟨fun name asked apart => alike_of_cycle (fun _ => rfl)
          fun hashes => ?_, fun settled => ?_⟩
        · rw [advanced, advanced]
          exact estimator?_of_contrast contrast hashes level apart
        · obtain ⟨known, pieces, perm, made, folded, most⟩ :=
            estimators_of_contrast settings resolver now pods contrast level
              (settled.imp_right unaffected)
          refine ⟨known, pieces, perm, made,
            fun outcome member hashes => ?_,
            fun only => most (unaffected only)⟩
          rw [advanced]
          exact folded (caches outcome) (has outcome member) hashes

/-!
## A quantity that cannot be read

The metrics API lists two pods.  The processor time of the first one may be any
text.
-/

namespace Misread

def container (quantity memory : String) : Json :=
  .object [("name", .string "app"),
    ("usage", .object [("cpu", .string quantity), ("memory", .string memory)])]

def item (name quantity memory : String) : Json :=
  .object [
    ("metadata", .object [("namespace", .string "default"),
      ("name", .string name)]),
    ("timestamp", .string "1970-01-01T00:00:00Z"),
    ("containers", .array [container quantity memory])]

def body (quantity : String) : Json :=
  .object [("items", .array
    [item "web-1" quantity "100m", item "web-2" "2" "500m"])]

def server (quantity : String) : Http.Server :=
  fun _ => some ⟨200, (body quantity).render⟩

theorem readable (quantity : String) :
    Json.ofText? (body quantity).render = some (body quantity) :=
  Json.ofText?_render (by simp [body, item, container, Json.Canonical,
    Json.CanonicalItems, Json.CanonicalMembers])

theorem answersDiffer (left right : String) :
    PodMetrics.AnswersDiffer Overlap.pod.id "app" .cpu (server left)
      (server right) := by
  refine ⟨200, _, _, body left, body right, rfl, rfl, readable left,
    readable right, ?_⟩
  refine ⟨[], [], _, _, ⟨[], [_], item "web-1" left "100m",
    item "web-1" right "100m", ⟨rfl, ?_⟩, rfl, rfl⟩, rfl, rfl⟩
  refine ⟨[_, _], [], _, _, ⟨[], [], container left "100m",
    container right "100m", ⟨rfl, ?_⟩, rfl, rfl⟩, rfl, rfl⟩
  exact ⟨[_], [], _, _, ⟨[], [_], _, _, trivial, rfl, rfl⟩, rfl, rfl⟩

def usage (quantity memory : String) : PodUsage Float :=
  ((PodUsage.empty ⟨0, 0⟩).insert "app" .cpu (.text quantity)).insert "app"
    .memory (.text memory)

def second : Pod := ⟨⟨"default", "web-2"⟩, ∅, ["app"], some "Running"⟩

/-- What is read from the list. -/
def snapshot (quantity : String) : UsageSnapshot Float :=
  ((∅ : UsageSnapshot Float).insert Overlap.pod.id
    (usage quantity "100m")).insert second.id (usage "2" "500m")

theorem outcome_fetch (quantity : String) :
    Daemon.outcome (PodMetrics.fetch (server quantity) ⟨90, 0⟩) =
      .ok (snapshot quantity) := by
  unfold Daemon.outcome
  rw [PodMetrics.outcome_fetch]
  simp only [server, Option.bind_eq_bind, Option.bind_some,
    ApiObject.body?, readable]
  rfl

theorem fetchesDiffer (left right : String) :
    FetchesDiffer Overlap.pod.id "app" .cpu (.ok (snapshot left))
      (.ok (snapshot right)) :=
  outcome_fetch left ▸ outcome_fetch right ▸
    .answers (answersDiffer left right)

def pods : List Pod := [Overlap.pod, second]

def resolver : Resolver := ⟨[], Cache.empty.replace ⟨0, 0⟩ ⟨∅, pods⟩⟩

/-- Only another source has been fetched from. -/
def repository : Repository Float :=
  { caches := SortedMap.ofList [
      (.metricsApi, Cache.empty),
      (.prometheus "vms",
        Cache.empty.replace ⟨90, 0⟩ (snapshot "300m"))] }

def caches (quantity : String) : Repository Float :=
  (repository.refresh ⟨90, 0⟩ .metricsApi (.ok (snapshot quantity))).1

/-- What is read where the quantity stands. -/
def shown (quantity : String) : Option (Sample Float) :=
  (caches quantity).reading? .metricsApi .cpu "app" Overlap.pod.id

/-- The metrics API, and processor time from another source. -/
def spec (other : Source) : Spec Float :=
  ⟨none, [⟨.metricsApi, [.cpu, .memory]⟩, ⟨other, [.cpu]⟩],
    [.distribution DistributionModel.standard]⟩

def profiler (other : Source) : Profiler Float :=
  .create (.ofSpec (.pods "default" ⟨∅, []⟩) .container (spec other))
    (spec other)

def cycle (other : Source) (hashes : Hashes) (quantity : String) :
    Cycle (MemoryStore Float) Float :=
  (profiler other).profile Overlap.settings resolver
    ((caches quantity).seeded hashes) ⟨100, 0⟩ ∅

theorem pods_resolver (other : Source) :
    resolver.pods (profiler other).key.target = .ok pods := by
  have sorted : pods.Pairwise fun left right =>
      (compare left.id right.id).isLE = true := by decide
  exact congrArg Except.ok (List.mergeSort_of_pairwise sorted)

theorem cycle_eq (other : Source) (hashes : Hashes) (quantity : String) :
    let repository := (caches quantity).seeded hashes
    cycle other hashes quantity =
      Observation.finish
        ⟨(profiler other).advance Overlap.settings resolver repository
          ⟨100, 0⟩ pods, 2, (profiler other).tally Overlap.settings resolver
            repository ⟨100, 0⟩ pods⟩ ⟨100, 0⟩ ∅ :=
  profile_of_resolved _ _ _ _ (pods_resolver other)

/-- The second pod is listed first. -/
def reversed : Hashes :=
  fun _ _ _ pod => if pod = Overlap.pod.id then 1 else 0

end Misread

open Exact in
/-- A malformed quantity leaves one sample out, and a source that is not
configured could as well be missing from the spec. -/
theorem malformed_quantity_left_out :
    let other := Source.prometheus "gone"
    let cycle := Misread.cycle other
    let whole (hashes : Hashes) := (Misread.profiler other).profile
      Overlap.settings Misread.resolver (Misread.repository.seeded hashes)
        ⟨100, 0⟩ (∅ : MemoryStore Float)
    let narrowed (hashes : Hashes) := ((Misread.profiler other).storeSpec
      ((Misread.spec other).without other)).profile Overlap.settings
        Misread.resolver (Misread.repository.seeded hashes) ⟨100, 0⟩
          (∅ : MemoryStore Float)
    let quantiles := (Misread.spec other).quantiles
    (cycle Misread.reversed "100z").samples? = some 3 ∧
      (cycle Misread.reversed "100m").samples? = some 4 ∧
      Alike quantiles .memory none
        (fun hashes =>
          (cycle hashes "100z").profiler.estimator? "app" .memory)
        (fun hashes =>
          (cycle hashes "100m").profiler.estimator? "app" .memory) ∧
      Estimator.Orderless ℝ ∧
      (∃ known, ∃ pieces : Hashes → List (Option (Sample Float)),
        (∀ quantity ∈ ["100z", "100m"], ∀ hashes,
          (cycle hashes quantity).profiler.estimator? "app" .cpu =
            Estimator.ingestAll quantiles .cpu known
              ((pieces hashes).filterMap fun piece =>
                piece.or (Misread.shown quantity))) ∧
        ∀ hashes, (pieces hashes).countP Option.isNone ≤ 1) ∧
      (∀ hashes, (narrowed hashes).profiler =
        (whole hashes).profiler.storeSpec
          ((Misread.spec other).without other)) ∧
      ∀ name asked, Alike quantiles asked none
        (fun hashes => (whole hashes).profiler.estimator? name asked)
        (fun hashes =>
          (narrowed hashes).profiler.estimator? name asked) := by
  intro other cycle whole narrowed quantiles
  obtain ⟨isolated, removed⟩ := faults_isolated Overlap.settings
    Misread.resolver Misread.repository ⟨100, 0⟩ (∅ : MemoryStore Float)
    (Misread.profiler other)
  obtain ⟨others, own⟩ := isolated rfl .metricsApi ⟨90, 0⟩ Overlap.pod.id
    "app" .cpu _ _ (Misread.fetchesDiffer "100z" "100m")
  have silent : Misread.repository.snapshot? other = none := rfl
  have sole : ∀ source, (source, Resource.cpu) ∈
      (Misread.profiler other).spec.queries → source ≠ .metricsApi →
        Misread.repository.reading? source .cpu "app" Overlap.pod.id =
          none := by
    intro source asked different
    have named : source = other := by
      simpa [Misread.profiler, Misread.spec, create, Spec.queries,
        different] using asked
    exact named ▸ Repository.reading?_of_silent silent _
  obtain ⟨known, pieces, -, -, folded, most⟩ := own (.inr sole)
  obtain ⟨without, alike⟩ := removed other silent
  refine ⟨?_, ?_, others "app" .memory (by decide),
    Estimator.orderless_of_exact, ⟨known, pieces, ?_, most sole⟩,
    fun hashes => (without hashes).1, alike⟩
  · simp only [cycle, Misread.cycle_eq]
    decide +kernel
  · simp only [cycle, Misread.cycle_eq]
    decide +kernel
  · intro quantity listed hashes
    refine folded (.ok (Misread.snapshot quantity)) ?_ hashes
    rcases List.mem_pair.1 listed with rfl | rfl <;> simp

/-- A malformed quantity makes way for the reading of another source: the
estimators differ, but not by the sample that is missing.  And in another order
the samples of another resource leave another estimator. -/
theorem malformed_quantity_makes_way :
    let other := Source.prometheus "vms"
    let cycle := Misread.cycle other
    let left := (cycle .equal "100z").profiler.estimator? "app" .cpu
    let right := (cycle .equal "100m").profiler.estimator? "app" .cpu
    (Misread.spec other).validate.isOk = true ∧
      FetchesDiffer Overlap.pod.id "app" .cpu
        (.ok (Misread.snapshot "100z")) (.ok (Misread.snapshot "100m")) ∧
      (cycle .equal "100z").profiler.estimator? "app" .memory ≠
        (cycle Misread.reversed "100m").profiler.estimator? "app" .memory ∧
      Misread.shown "100z" = none ∧
      ∃ sample, Misread.shown "100m" = some sample ∧ left ≠ right ∧
        ∀ known before after,
          left = Estimator.ingestAll (Misread.spec other).quantiles .cpu
              known (before ++ after) →
            right ≠ Estimator.ingestAll (Misread.spec other).quantiles .cpu
              known (before ++ sample :: after) := by
  intro other cycle left right
  have unread : (Misread.shown "100z").isNone = true := by decide +kernel
  have read : (Misread.shown "100m").isSome = true := by decide +kernel
  have counts : Estimator.counted left = 2 ∧ Estimator.counted right = 2 ∧
      left.map Estimator.mean ≠ right.map Estimator.mean := by
    simp only [left, right, cycle, Misread.cycle_eq]
    decide +kernel
  have ordered :
      ((cycle .equal "100z").profiler.estimator? "app" .memory).map
          Estimator.mean ≠
        ((cycle Misread.reversed "100m").profiler.estimator? "app"
          .memory).map Estimator.mean := by
    simp only [cycle, Misread.cycle_eq]
    decide +kernel
  obtain ⟨sample, known⟩ := Option.isSome_iff_exists.1 read
  refine ⟨by decide +kernel, Misread.fetchesDiffer _ _,
    fun same => ordered (by rw [same]), Option.isNone_iff_eq_none.1 unread,
    sample, known, fun same => counts.2.2 (by rw [same]), ?_⟩
  intro start before after folded added
  have finite := Repository.isFinite_reading known
  have fewer := counts.1
  have more := counts.2.1
  rw [folded, Estimator.counted_ingestAll, List.countP_append] at fewer
  rw [added, Estimator.counted_ingestAll, List.countP_append,
    List.countP_cons, if_pos finite, ← Nat.add_assoc, UInt64.ofNat_add,
    ← UInt64.add_assoc, fewer] at more
  exact absurd more (by decide)

end Profiler

end UsageForecast
