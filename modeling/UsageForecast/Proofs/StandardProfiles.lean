import UsageForecast.Daemon.Basic
import UsageForecast.Proofs.CacheHistory
import UsageForecast.Proofs.CycleFaults
import UsageForecast.Proofs.KeyIdentity
import UsageForecast.Proofs.WatchedHealth

/-!
# Profiles without a spec of their own

A profile that is configured without a spec asks the cluster metrics API and,
for a workload, every configured back end.  Its spec is valid unless the name
of a back end is repeated, and its sources are those of the engine that the
same configuration builds, but for a metrics API that is switched off.
-/

namespace UsageForecast

/-- The resources that a selection names are there and served. -/
structure Selection.Served (selection : Selection) : Prop where
  named : selection.resources ≠ []
  served : selection.source = .metricsApi →
    ∀ resource ∈ selection.resources, resource = .cpu ∨ resource = .memory

namespace Spec

/-- The first member of a list that is also earlier in the list. -/
def FirstRepeated {ι : Type} (members : List ι) (member : ι) : Prop :=
  ∃ before after, members = before ++ member :: after ∧ before.Nodup ∧
    member ∈ before

theorem mem_sources_of_queries {α : Type} {spec : Spec α} {source : Source}
    {resource : Resource} (asked : (source, resource) ∈ spec.queries) :
    source ∈ spec.sources := by
  obtain ⟨selection, listed, named⟩ := List.mem_flatMap.1 asked
  obtain ⟨_, -, same⟩ := List.mem_map.1 named
  obtain ⟨rfl, -⟩ := Prod.mk.inj same
  exact mem_sortDistinct_iff.2 (List.mem_map_of_mem listed)

theorem checkSelections_cons {selection : Selection}
    (served : selection.Served) (seen : List Source)
    (rest : List Selection) :
    checkSelections seen (selection :: rest) =
      if selection.source ∈ seen then
        .error (.repeatedSource selection.source.display)
      else checkSelections (selection.source :: seen) rest := by
  have all : (selection.resources.find? fun resource =>
      selection.source == .metricsApi && resource != .cpu &&
        resource != .memory) = none := by
    rw [List.find?_eq_none]
    intro resource listed unserved
    simp only [Bool.and_eq_true, beq_iff_eq, bne_iff_ne] at unserved
    obtain ⟨⟨api, cpu⟩, memory⟩ := unserved
    exact (served.served api resource listed).elim cpu memory
  rw [checkSelections]
  simp only [List.isEmpty_iff, served.named, if_false, all,
    List.contains_iff_mem]

/-- Served selections are accepted until a source comes again. -/
theorem checkSelections_cases {selections : List Selection}
    (served : ∀ selection ∈ selections, selection.Served)
    {seen : List Source} (distinct : seen.Nodup) :
    (checkSelections seen selections = .ok () ∧
      (seen.reverse ++ selections.map Selection.source).Nodup) ∨
    ∃ source, checkSelections seen selections =
        .error (.repeatedSource source.display) ∧
      FirstRepeated (seen.reverse ++ selections.map Selection.source)
        source := by
  -- The seen sources with what is left are the whole list at every step.
  induction selections generalizing seen with
  | nil =>
      refine .inl ⟨rfl, ?_⟩
      rw [List.map_nil, List.append_nil]
      exact List.nodup_reverse.2 distinct
  | cons selection rest induction =>
      obtain ⟨first, others⟩ := List.forall_mem_cons.1 served
      rw [checkSelections_cons first]
      by_cases repeated : selection.source ∈ seen
      · rw [if_pos repeated]
        exact .inr ⟨_, rfl, seen.reverse, rest.map Selection.source, rfl,
          List.nodup_reverse.2 distinct, List.mem_reverse.2 repeated⟩
      · rw [if_neg repeated]
        have next := induction others (List.nodup_cons.2 ⟨repeated, distinct⟩)
        rwa [List.reverse_cons, List.append_assoc, List.singleton_append]
          at next

theorem FirstRepeated.not_nodup {ι : Type} {members : List ι} {member : ι}
    (repeated : FirstRepeated members member) : ¬ members.Nodup := by
  obtain ⟨before, after, rfl, -, earlier⟩ := repeated
  intro distinct
  obtain ⟨-, -, disjoint⟩ := List.nodup_append.1 distinct
  exact disjoint member earlier member List.mem_cons_self rfl

theorem FirstRepeated.of_backends {names : List String} {source : Source}
    (repeated : FirstRepeated
      (.metricsApi :: names.map Source.prometheus) source) :
    ∃ name, source = .prometheus name ∧ FirstRepeated names name := by
  obtain ⟨before, after, split, distinct, earlier⟩ := repeated
  cases before with
  | nil => cases earlier
  | cons first before =>
      obtain ⟨rfl, rest⟩ := List.cons.inj split
      obtain ⟨named, others, rfl, rfl, last⟩ := List.map_eq_append_iff.1 rest
      obtain ⟨name, later, rfl, rfl, -⟩ := List.map_eq_cons_iff.1 last
      refine ⟨name, rfl, named, later, rfl, ?_, ?_⟩
      · exact (List.nodup_cons.1 distinct).2.of_map
      · simpa using earlier

section

variable (owner : Option Owner) {backends : List Backend}

theorem mem_sources_forWorkload_iff {source : Source} :
    source ∈ (forWorkload owner backends : Spec Float).sources ↔
      source = .metricsApi ∨
        ∃ backend ∈ backends, source = .prometheus backend.name := by
  simp [sources, mem_sortDistinct_iff, forWorkload, Backend.selection,
    eq_comm]

theorem validate_forWorkload :
    (forWorkload owner backends : Spec Float).validate =
      checkSelections []
        (⟨.metricsApi, [.cpu, .memory]⟩ :: backends.map Backend.selection)
      := by
  have models : [EstimatorRequest.distribution
      (DistributionModel.standard : DistributionModel Float)].forM
        checkEstimator = .ok () := by
    decide +kernel
  change (checkSelections _ _ >>= fun _ =>
    [EstimatorRequest.distribution DistributionModel.standard].forM
      checkEstimator) = _
  rw [models]
  exact bind_pure _

/-- The standard spec of some back ends is valid, or the name of a back end
is repeated. -/
theorem validate_forWorkload_cases
    (offering : ∀ backend ∈ backends, backend.resources ≠ []) :
    ((forWorkload owner backends : Spec Float).validate = .ok () ∧
      (backends.map Backend.name).Nodup) ∨
    ∃ name, (forWorkload owner backends : Spec Float).validate =
        .error (.repeatedSource (Source.prometheus name).display) ∧
      FirstRepeated (backends.map Backend.name) name := by
  have sources : (⟨.metricsApi, [.cpu, .memory]⟩ ::
      backends.map Backend.selection).map Selection.source =
        .metricsApi :: (backends.map Backend.name).map .prometheus := by
    simp [Backend.selection]
  have served : ∀ selection ∈ (⟨.metricsApi, [.cpu, .memory]⟩ ::
      backends.map Backend.selection : List Selection),
        selection.Served := by
    rw [List.forall_mem_cons]
    refine ⟨⟨nofun, by decide⟩, ?_⟩
    intro selection listed
    obtain ⟨backend, offered, rfl⟩ := List.mem_map.1 listed
    exact ⟨offering backend offered, nofun⟩
  rw [validate_forWorkload]
  rcases checkSelections_cases served List.nodup_nil with
    ⟨accepted, distinct⟩ | ⟨source, refused, repeated⟩
  · rw [sources] at distinct
    exact .inl ⟨accepted, (List.nodup_cons.1 distinct).2.of_map⟩
  · rw [sources] at repeated
    obtain ⟨name, rfl, first⟩ := FirstRepeated.of_backends repeated
    exact .inr ⟨name, refused, first⟩

end

end Spec

namespace Repository

/-- The two reasons are told apart by how they begin. -/
theorem unsynced_ne_unconfigured (source : Source) :
    s!"{source.display} has not synced yet" ≠
      s!"no source configured for {source.display}" := by
  intro same
  have texts := congrArg String.toList same
  cases source <;> simp [Source.display, toString] at texts

end Repository

namespace Engine

variable {σ α : Type} [Analytic α] [CheckpointStore σ α]

/-- No operation adds or removes a cache. -/
theorem isSome_find?_run {start engine : Engine σ α}
    {operations : List (Operation α)}
    (ran : start.run operations = .ok engine) (source : Source) :
    (engine.repository.caches.find? source).isSome =
      (start.repository.caches.find? source).isSome := by
  have kept (before : Engine σ α) (operation : Operation α)
      (after : Engine σ α)
      (same : (before.repository.caches.find? source).isSome =
        (start.repository.caches.find? source).isSome)
      (carried : before.carryOut operation = .ok after) :
      (after.repository.caches.find? source).isSome =
        (start.repository.caches.find? source).isSome := by
    obtain ⟨now, usage, cluster, refreshed⟩ := refreshed_carryOut carried
    rw [refreshed.usage, Option.isSome_map, same]
  exact run_invariant kept rfl ran

end Engine

namespace Config

theorem resources_offer_ne_nil (backend : QueryBackend) :
    backend.offer.resources ≠ [] := by
  change backend.effectiveQueries.keys ≠ []
  unfold QueryBackend.effectiveQueries
  split
  · decide
  next listed =>
    intro none
    exact listed (List.isEmpty_iff.2 (List.map_eq_nil_iff.1 none))

theorem mem_sources_iff {config : Config Float} {source : Source} :
    source ∈ config.sources ↔
      source = .metricsApi ∧ config.metricsApi = true ∨
        ∃ backend ∈ config.queryBackends,
          source = .prometheus backend.name := by
  cases enabled : config.metricsApi <;> simp [sources, enabled, eq_comm]

namespace StaticProfile

variable {profile : StaticProfile Float} {config : Config Float}

/-- The back ends that a profile without a spec asks. -/
def asked (profile : StaticProfile Float) (backends : List Backend) :
    List Backend :=
  match profile.target with
  | .workload _ => backends
  | .pods .. => []

theorem asked_of_workload
    (workload : ∃ workload, profile.target = .workload workload)
    (backends : List Backend) : profile.asked backends = backends := by
  obtain ⟨_, same⟩ := workload
  rw [asked, same]

theorem asked_of_selector
    (selector : ¬ ∃ workload, profile.target = .workload workload)
    (backends : List Backend) : profile.asked backends = [] := by
  unfold asked
  cases same : profile.target with
  | workload workload => exact absurd ⟨workload, same⟩ selector
  | pods scope labels => rfl

theorem asked_subset (backends : List Backend) :
    profile.asked backends ⊆ backends := by
  unfold asked
  cases profile.target with
  | workload workload => exact List.Subset.refl backends
  | pods scope selector => exact List.nil_subset backends

theorem resolve_standard (standard : profile.spec = none)
    (backends : List Backend) :
    profile.resolve backends =
      let spec := Spec.forWorkload profile.owner (profile.asked backends)
      (.ofSpec profile.target profile.level spec, spec) := by
  obtain ⟨target, level, owner, spec⟩ := profile
  obtain rfl : spec = none := standard
  cases target <;> rfl

variable (config) in
/-- The spec of a profile without its own is valid unless it asks a back end
of a repeated name. -/
theorem validate_standard (standard : profile.spec = none) :
    let spec := (profile.resolve config.offers).2
    let names := config.queryBackends.map QueryBackend.name
    (spec.validate = .ok () ↔
      ((∃ workload, profile.target = .workload workload) → names.Nodup)) ∧
    ∀ fault, spec.validate = .error fault →
      ∃ name, Spec.FirstRepeated names name ∧
        fault = .repeatedSource (Source.prometheus name).display := by
  have offered : config.offers.map Backend.name =
      config.queryBackends.map QueryBackend.name := by
    rw [offers, List.map_map]
    rfl
  have offering : ∀ backend ∈ profile.asked config.offers,
      backend.resources ≠ [] := by
    intro backend listed
    obtain ⟨configured, -, rfl⟩ :=
      List.mem_map.1 (asked_subset config.offers listed)
    exact resources_offer_ne_nil configured
  rw [resolve_standard standard]
  intro spec names
  rcases Spec.validate_forWorkload_cases profile.owner offering with
    ⟨accepted, distinct⟩ | ⟨name, refused, repeated⟩
  · constructor
    · refine iff_of_true accepted fun workload => ?_
      rw [asked_of_workload workload, offered] at distinct
      exact distinct
    · intro fault failed
      rw [accepted] at failed
      cases failed
  · have workload : ∃ workload, profile.target = .workload workload := by
      by_contra selector
      rw [asked_of_selector selector] at repeated
      obtain ⟨before, after, split, -⟩ := repeated
      exact List.append_ne_nil_of_right_ne_nil _ (List.cons_ne_nil _ _)
        split.symm
    rw [asked_of_workload workload, offered] at repeated
    constructor
    · refine iff_of_false ?_ fun distinct => ?_
      · rw [refused]
        nofun
      · exact repeated.not_nodup (distinct workload)
    · intro fault failed
      rw [refused] at failed
      exact ⟨name, repeated, (Except.error.inj failed).symm⟩

theorem mem_sources_standard (standard : profile.spec = none)
    {source : Source}
    (named : source ∈ (profile.resolve config.offers).2.sources) :
    source ∈ config.sources ↔
      (source = .metricsApi → config.metricsApi = true) := by
  rw [resolve_standard standard] at named
  rw [mem_sources_iff]
  rcases (Spec.mem_sources_forWorkload_iff profile.owner).1 named with
    rfl | ⟨backend, listed, rfl⟩
  · simp
  · obtain ⟨configured, member, rfl⟩ :=
      List.mem_map.1 (asked_subset config.offers listed)
    exact iff_of_true (.inr ⟨configured, member, rfl⟩) nofun

end StaticProfile

section

variable {σ : Type} [CheckpointStore σ Float] {config : Config Float}
  {store : σ} {operations : List (Engine.Operation Float)}
  {last : Engine σ Float}

theorem isSome_find?_of_run
    (ran : (config.engine store).run operations = .ok last)
    (source : Source) :
    (last.repository.caches.find? source).isSome = true ↔
      source ∈ config.sources := by
  rw [Engine.isSome_find?_run ran]
  exact Repository.isSome_find?_ofSources

theorem sound_of_registered
    (ran : (config.engine store).run operations = .ok last)
    {key : ProfileKey} {profiler : Profiler Float}
    (registered : last.manager.registry.find? key = some profiler) :
    profiler.Sound key := by
  have sound : last.manager.Sound :=
    Engine.run_invariant (fun _ _ _ => Engine.sound_carryOut)
      Manager.sound_initial ran
  exact sound.profilers key profiler registered

/-- An unanswered query of a cycle is reported as one to a source that is not
configured iff there is no such source. -/
theorem unconfigured_iff
    (ran : (config.engine store).run operations = .ok last)
    {profiler : Profiler Float} {pods : List Pod} {source : Source}
    {container : String} {resource : Resource} {failure : Failure}
    (reported : .unanswered source container resource failure ∈
      profiler.faults last.resolver last.repository pods) :
    failure = .unavailable
        s!"no source configured for {source.display}" ↔
      source ∉ config.sources := by
  obtain ⟨-, -, rfl⟩ := Profiler.unanswered_of_faults reported
  rw [Repository.silence_eq, ← isSome_find?_of_run ran]
  split
  next known =>
    refine iff_of_false (fun same => ?_) (not_not_intro known)
    exact Repository.unsynced_ne_unconfigured source
      (Failure.unavailable.inj same)
  next unknown => exact iff_of_true rfl unknown

end

/-- If an engine can be built, a profile without a spec of its own gets one
that is valid unless it asks a back end of a repeated name, and whose sources
are those of the engine but for a metrics API that is switched off.  The
cycles of the profile report no other source as not configured. -/
theorem standard_profile_served {σ : Type} [CheckpointStore σ Float]
    {config : Config Float} (built : config.check = .ok ())
    {profile : StaticProfile Float} (standard : profile.spec = none)
    (begun : Instant) (unusable : Option String) (store : σ) :
    let key := (profile.resolve config.offers).1
    let spec := (profile.resolve config.offers).2
    let names := config.queryBackends.map QueryBackend.name
    (spec.validate = .ok () ↔
      ((∃ workload, profile.target = .workload workload) → names.Nodup)) ∧
    (∀ fault, spec.validate = .error fault →
      ∃ name, Spec.FirstRepeated names name ∧
        fault = .repeatedSource (Source.prometheus name).display) ∧
    ∃ engine, (Daemon.build config begun unusable store).engine? =
        some engine ∧
      (∀ source ∈ spec.sources, source ∈ engine.repository.sources ↔
        (source = .metricsApi → config.metricsApi = true)) ∧
      ∀ operations last, engine.run operations = .ok last →
        ∀ profiler, last.manager.registry.find? key = some profiler →
        ∀ now hashes (current : σ) report,
          let cycle := profiler.profile last.settings.profiler last.resolver
            (last.repository.seeded hashes) now current
          cycle.outcome = .completed report →
          ∃ pods, last.resolver.pods key.target = .ok pods ∧
            let faults := profiler.faults last.resolver last.repository pods
            (∃ unsaved : Option String, unsaved.isSome = cycle.unsaved ∧
              report.failures =
                faults.map Profiler.Fault.text ++ unsaved.toList) ∧
            ∀ source container resource failure,
              .unanswered source container resource failure ∈ faults →
              (failure = .unavailable
                  s!"no source configured for {source.display}" ↔
                source = .metricsApi ∧ config.metricsApi = false) := by
  intro key spec names
  obtain ⟨valid, refused⟩ := StaticProfile.validate_standard config standard
  have running : (Daemon.build config begun unusable store).engine? =
      some (config.engine store) := by
    simp only [Daemon.build, built]
    rfl
  refine ⟨valid, refused, config.engine store, running, ?_, ?_⟩
  · intro source named
    rw [← StaticProfile.mem_sources_standard standard named]
    exact SortedMap.mem_keys_iff.trans Repository.isSome_find?_ofSources
  · intro operations last ran profiler registered now hashes current report
      cycle completed
    obtain ⟨pods, resolved, -, -, unsaved, saved, failures⟩ :=
      Profiler.profile_of_report completed
    have held := sound_of_registered ran registered
    rw [held.key_eq] at resolved
    rw [Profiler.failures_tally] at failures
    refine ⟨pods, resolved, ⟨unsaved, saved, failures⟩, ?_⟩
    intro source container resource failure reported
    obtain ⟨asked, -, -⟩ := Profiler.unanswered_of_faults reported
    have named : source ∈ spec.sources := by
      have same : key.sources = spec.sources := rfl
      rw [← same, (ProfileKey.agrees_iff.1 held.agrees).1]
      exact Spec.mem_sources_of_queries asked
    rw [unconfigured_iff ran reported,
      StaticProfile.mem_sources_standard standard named]
    simp

/-- A deployment, without an owner or a spec. -/
def webProfile : StaticProfile Float :=
  ⟨.workload ⟨"Deployment", "web", "default", none⟩, .container, none, none⟩

/-- A daemon with back ends of some names and this profile. -/
def withBackends (metricsApi : Bool) (names : List String) : Config Float :=
  { Daemon.metricsOnly with
    metricsApi
    queryBackends := names.map fun name => ⟨name, "http://vms:8428", ∅, 30⟩
    profiles := [webProfile] }

/-- What happens before the first cycle of the profile: one back end answers,
and a pod of the deployment is listed. -/
def webStart (config : Config Float) : List (Engine.Operation Float) :=
  let (key, spec) := webProfile.resolve config.offers
  [.refreshUsage ⟨10, 0⟩ (.prometheus "vms") (.ok ∅),
    .refreshCluster ⟨10, 0⟩ (.ok
      ⟨SortedMap.ofList
        [(⟨"Deployment", "default", "web"⟩, ⟨some .any, .empty⟩)],
        [Profiler.Overlap.pod]⟩),
    .tryStart, .register ⟨11, 0⟩ key spec]

/-- The failures that the first cycle of the profile reports. -/
def webFailures (config : Config Float) : Option (List String) := do
  let engine ←
    ((config.engine (∅ : MemoryStore Float)).run
      (webStart config)).toOption
  let profiler ← engine.manager.registry.find?
    (webProfile.resolve config.offers).1
  match (profiler.profile engine.settings.profiler engine.resolver
    engine.repository ⟨60, 0⟩ engine.store).outcome with
  | .completed report => some report.failures
  | _ => none

theorem of_webFailures {config : Config Float} {failures : List String}
    (told : webFailures config = some failures) :
    ∃ engine profiler report,
      (config.engine (∅ : MemoryStore Float)).run (webStart config) =
        .ok engine ∧
      engine.manager.registry.find? (webProfile.resolve config.offers).1 =
        some profiler ∧
      (profiler.profile engine.settings.profiler engine.resolver
        engine.repository ⟨60, 0⟩ engine.store).outcome =
          .completed report ∧
      report.failures = failures := by
  obtain ⟨engine, completed, told⟩ := Option.bind_eq_some_iff.1 told
  obtain ⟨profiler, registered, told⟩ := Option.bind_eq_some_iff.1 told
  split at told
  next report ended =>
    exact ⟨engine, profiler, report, toOption_eq_some_iff.1 completed,
      registered, ended, Option.some.inj told⟩
  · cases told

/-- The back end that has not answered yet is reported as such. -/
theorem standard_profile_of_two_backends :
    let config := withBackends true ["vms", "db"]
    let spec := (webProfile.resolve config.offers).2
    config.check = .ok () ∧ spec.validate = .ok () ∧
      ∃ engine, (Daemon.build config ⟨0, 0⟩ none
          (∅ : MemoryStore Float)).engine? = some engine ∧
        (∀ source ∈ spec.sources, source ∈ engine.repository.sources) ∧
        ∃ last, engine.run (webStart config) = .ok last ∧
          ∃ pods profiler, last.manager.registry.find?
              (webProfile.resolve config.offers).1 = some profiler ∧
            ∀ source container resource failure,
              .unanswered source container resource failure ∈
                  profiler.faults last.resolver last.repository pods →
                failure ≠ .unavailable
                  s!"no source configured for {source.display}" := by
  intro config spec
  have built : config.check = .ok () := by decide +kernel
  have standard : webProfile.spec = none := rfl
  obtain ⟨valid, -, engine, running, sources, cycles⟩ :=
    standard_profile_served built standard ⟨0, 0⟩ none
      (∅ : MemoryStore Float)
  have told : (webFailures config).isSome = true := by decide +kernel
  obtain ⟨failures, told⟩ := Option.isSome_iff_exists.1 told
  obtain ⟨last, profiler, report, ran, registered, completed, -⟩ :=
    of_webFailures told
  have same : engine = config.engine ∅ := Option.some.inj running.symm
  rw [← same] at ran
  obtain ⟨pods, -, -, reasons⟩ :=
    cycles _ last ran profiler registered ⟨60, 0⟩ last.repository.hashes
      last.store report completed
  refine ⟨built, valid.2 fun _ => by decide, engine, running,
    fun source named => (sources source named).2 fun _ => rfl, last, ran,
    pods, profiler, registered, ?_⟩
  intro source container resource failure reported unconfigured
  obtain ⟨-, disabled⟩ :=
    (reasons source container resource failure reported).1 unconfigured
  cases disabled

/-- With the metrics API switched off a cycle asks it all the same, and a
back end that is configured twice makes the spec invalid. -/
theorem standard_profile_unserved :
    let silent := withBackends false ["vms"]
    let twice := withBackends true ["vms", "vms"]
    let spec := (webProfile.resolve silent.offers).2
    (silent.check = .ok () ∧ webProfile ∈ silent.profiles ∧
      .metricsApi ∈ spec.sources ∧
      .metricsApi ∉
        (silent.engine (∅ : MemoryStore Float)).repository.sources ∧
      webFailures silent = some [
        "metrics-api app/cpu: backend unavailable: " ++
          "no source configured for metrics-api",
        "metrics-api app/memory: backend unavailable: " ++
          "no source configured for metrics-api"]) ∧
    twice.check = .ok () ∧ webProfile ∈ twice.profiles ∧
      (webProfile.resolve twice.offers).2.validate =
        .error (.repeatedSource "prometheus/vms") := by
  exact ⟨⟨by decide +kernel, List.mem_cons_self, by decide +kernel,
    by decide +kernel, by decide +kernel⟩, by decide +kernel,
    List.mem_cons_self, by decide +kernel⟩

end Config

end UsageForecast
