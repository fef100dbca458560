import UsageForecast.Proofs.StoreHistory
import UsageForecast.Proofs.DamagedCheckpoint

/-!
# What a key tells of a spec

A key holds the sources and the kinds of estimators of a spec as lists without
repetitions in increasing order.  Such lists are the same for two specs exactly
if they name the same members, so that a key stands for these two sets and for
nothing else of a spec.  Different keys are written as different texts.
-/

namespace UsageForecast

/-- Two specs name the same sources and the same kinds of estimators, in
whatever order and however often. -/
structure Spec.NamesSame {α : Type} (left right : Spec α) : Prop where
  sources : ∀ source,
    (∃ selection ∈ left.selections, selection.source = source) ↔
      ∃ selection ∈ right.selections, selection.source = source
  kinds : ∀ kind, (∃ request ∈ left.estimators, request.kind = kind) ↔
    ∃ request ∈ right.estimators, request.kind = kind

theorem Spec.namesSame_iff {α : Type} {left right : Spec α} :
    left.NamesSame right ↔
      left.sources = right.sources ∧ left.kinds = right.kinds := by
  unfold sources kinds
  rw [sortDistinct_eq_iff, sortDistinct_eq_iff]
  constructor
  · intro same
    constructor
    · intro source
      rw [List.mem_map, List.mem_map]
      exact same.sources source
    · intro kind
      rw [List.mem_map, List.mem_map]
      exact same.kinds kind
  · rintro ⟨sources, kinds⟩
    constructor
    · intro source
      rw [← List.mem_map, ← List.mem_map]
      exact sources source
    · intro kind
      rw [← List.mem_map, ← List.mem_map]
      exact kinds kind

namespace ProfileKey

section

variable {α : Type} {target : Target} {level : Level} {left right : Spec α}

theorem ofSpec_eq_iff :
    ofSpec target level left = ofSpec target level right ↔
      left.NamesSame right := by
  simp [Spec.namesSame_iff, ofSpec]

theorem agrees_iff {key : ProfileKey} {spec : Spec α} :
    key.agrees spec = true ↔
      key.sources = spec.sources ∧ key.estimators = spec.kinds := by
  simp [agrees]

theorem agrees_ofSpec_iff :
    (ofSpec target level left).agrees right = true ↔
      left.NamesSame right := by
  rw [agrees_iff, Spec.namesSame_iff]
  rfl

/-- The lists of a key that agrees with some spec are strictly sorted. -/
theorem ascending_of_agrees {key : ProfileKey} {spec : Spec α}
    (agrees : key.agrees spec = true) :
    Ascending key.sources ∧ Ascending key.estimators := by
  obtain ⟨sources, kinds⟩ := agrees_iff.1 agrees
  rw [sources, kinds]
  exact ⟨ascending_sortDistinct _, ascending_sortDistinct _⟩

end

/-- Keys whose texts have different digests have files of their own. -/
theorem fileName_ne {left right : ProfileKey} (different : left ≠ right)
    (separate : Digest.Separates
      [left.toJson.render, right.toJson.render]) :
    Directory.fileName (Directory.stem left) ≠
      Directory.fileName (Directory.stem right) := by
  intro same
  have both : Digest.Separates
      ([left, right].map fun key => key.toJson.render) := separate
  exact different (Directory.apart_of_separates both left (by simp) right
    (by simp) (Directory.fileName_injective same))

end ProfileKey

namespace Manager

variable {σ α : Type} [Analytic α] {manager : Manager α}
  {resolver : Resolver} {key : ProfileKey} {spec : Spec α}

theorem accept_of_foreign (admits : manager.Admits resolver key)
    (valid : spec.validate = .ok ()) (foreign : key.agrees spec = false) :
    manager.accept resolver key spec =
      .error (.invalidSpec (.foreignKey key.display)) := by
  unfold accept
  rw [admits.started, valid, foreign]
  rfl

/-- A registration that is accepted is completed, unless a damaged checkpoint
stops it. -/
theorem completed_or_stopped [CheckpointStore σ α]
    (accepted : manager.accept resolver key spec = .ok ()) (now : Instant)
    (store : σ) :
    let outcome := manager.register resolver now store key spec
    (∃ registration, outcome = .ok (.ok registration)) ∨
      outcome = .error .unorderedBounds ∧
        ∃ checkpoint : Checkpoint α,
          CheckpointStore.load store key = .ok (some checkpoint) ∧
            ¬ checkpoint.OrderedFor spec := by
  intro outcome
  cases registered : outcome with
  | error crash =>
      obtain ⟨rfl, -, -, damaged⟩ :=
        (register_eq_error_iff manager resolver now store key spec crash).1
          registered
      exact .inr ⟨rfl, damaged⟩
  | ok answer =>
      change manager.register resolver now store key spec = _ at registered
      unfold register at registered
      rw [accepted] at registered
      obtain ⟨registration, -, rfl⟩ := map_eq_ok_iff.1 registered
      exact .inl ⟨registration, rfl⟩

end Manager

namespace ProfileKey

/-- The keys of two specs for a target and a level are the same iff the specs
name the same sources and the same kinds of estimators, and this is also when
the key of the one agrees with the other.  A valid spec is then registered
under the key, unless a damaged checkpoint stops it, and otherwise refused.  A
key with a list that is not strictly sorted agrees with no spec.  Different
keys have different texts and, unless their digests collide, different
files. -/
theorem stands_for_sources_and_kinds {σ α : Type} [Analytic α]
    [CheckpointStore σ α] (target : Target) (level : Level)
    (first second : Spec α) :
    let key := ofSpec target level first
    (key = ofSpec target level second ↔ first.NamesSame second) ∧
      (key.agrees second = true ↔ first.NamesSame second) ∧
      (∀ (manager : Manager α) (resolver : Resolver) (now : Instant)
        (store : σ), manager.Admits resolver key →
          second.validate = .ok () →
          let outcome := manager.register resolver now store key second
          (first.NamesSame second →
            (∃ registration, outcome = .ok (.ok registration)) ∨
              outcome = .error .unorderedBounds ∧
                ∃ checkpoint : Checkpoint α,
                  CheckpointStore.load store key = .ok (some checkpoint) ∧
                    ¬ checkpoint.OrderedFor second) ∧
            (¬ first.NamesSame second → outcome = .ok (.error
              (.invalidSpec (.foreignKey key.display))))) ∧
      (∀ other : ProfileKey,
        ¬ (Ascending other.sources ∧ Ascending other.estimators) →
          ∀ spec : Spec α, other.agrees spec = false) ∧
      ∀ left right : ProfileKey, left ≠ right →
        left.toJson.render ≠ right.toJson.render ∧
          (Digest.Separates [left.toJson.render, right.toJson.render] →
            Directory.fileName (Directory.stem left) ≠
              Directory.fileName (Directory.stem right)) := by
  intro key
  have agrees : key.agrees second = true ↔ first.NamesSame second :=
    agrees_ofSpec_iff
  refine ⟨ofSpec_eq_iff, agrees, ?_, ?_, ?_⟩
  · intro manager resolver now store admits valid outcome
    constructor
    · intro same
      have accepted := Manager.accept_eq_ok_iff.2
        ⟨admits, valid, agrees.2 same⟩
      exact Manager.completed_or_stopped accepted now store
    · intro other
      have foreign : key.agrees second = false :=
        Bool.eq_false_iff.2 (mt agrees.1 other)
      exact Manager.register_of_failure now
        (Manager.accept_of_foreign admits valid foreign)
  · intro other unsorted spec
    exact Bool.eq_false_iff.2 (mt ascending_of_agrees unsorted)
  · intro left right different
    exact ⟨mt render_injective different, fileName_ne different⟩

end ProfileKey

namespace Directory

/-- Processor time and memory from two sources, one of them listed twice. -/
def listedTwice : Spec Float :=
  ⟨some ⟨"default", "first"⟩,
    [⟨.prometheus "vms", [.memory]⟩, ⟨.metricsApi, [.cpu]⟩,
      ⟨.prometheus "vms", [.cpu]⟩],
    [.distribution ⟨["p95"], none⟩, .distribution .standard]⟩

open StoreCall (metricsKey stem_web_ne_db)
open Engine (bothSources)

/-- A spec in another order, with other resources and without an owner, is
registered under the key of a spec.  A key that lists its sources the other
way round agrees with no spec, and two workloads have files of their own. -/
theorem reordered_spec_registered :
    let key := ProfileKey.ofSpec (.pods "default" .any) .container
      listedTwice
    let backward : ProfileKey :=
      ⟨key.target, [.prometheus "vms", .metricsApi], key.estimators,
        key.level⟩
    listedTwice.validate ≠ .ok () ∧
      (∃ registration, accepting.register Profiler.Overlap.resolver ⟨10, 0⟩
        (∅ : MemoryStore Float) key bothSources.spec =
          .ok (.ok registration)) ∧
      backward.agrees bothSources.spec = false ∧
      fileName (stem (metricsKey "web")) ≠
        fileName (stem (metricsKey "db")) := by
  intro key backward
  obtain ⟨-, agrees, registered, unsorted, apart⟩ :=
    ProfileKey.stands_for_sources_and_kinds (σ := MemoryStore Float)
      (.pods "default" .any) .container listedTwice bothSources.spec
  have same : listedTwice.NamesSame bothSources.spec :=
    agrees.1 (by decide +kernel)
  have admits : accepting.Admits Profiler.Overlap.resolver key :=
    ⟨rfl, nofun⟩
  obtain ⟨completed, -⟩ := registered accepting Profiler.Overlap.resolver
    ⟨10, 0⟩ ∅ admits (by decide +kernel)
  refine ⟨by decide +kernel, ?_, ?_, ?_⟩
  · rcases completed same with done | ⟨-, checkpoint, held, -⟩
    · exact done
    · cases held
  · refine unsorted backward ?_ bothSources.spec
    rintro ⟨sources, -⟩
    have below := List.rel_of_pairwise_cons sources
      (List.mem_singleton_self _)
    cases below
  · refine (apart (metricsKey "web") (metricsKey "db") ?_).2
      (Digest.separates_pair stem_web_ne_db)
    decide

end Directory

end UsageForecast
