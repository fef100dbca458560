import UsageForecast.Proofs.DirectoryStore
import UsageForecast.Proofs.NumberedBuckets
import UsageForecast.Proofs.Reregistration

/-!
# Checkpoints that cannot be restored

A checkpoint that can be read may still have been damaged.  Restoring it stops
if an estimator that the spec asks for has samples and extremes that are out
of order; all other figures are taken over as they are.  A checkpoint that
cannot be read never stops a registration.
-/

namespace UsageForecast

/-- The extremes of a saved estimator are in order if it has samples. -/
def Estimator.State.Ordered {α : Type} [Scalar α] (state : State α) : Prop :=
  state.totalSamplesCount = 0 ∨ state.minValue ≤ state.maxValue

instance {α : Type} [Scalar α] (state : Estimator.State α) :
    Decidable state.Ordered :=
  inferInstanceAs (Decidable (_ ∨ _))

namespace Checkpoint

variable {α : Type}

/-- What a checkpoint holds for a resource of an entry. -/
def state? (checkpoint : Checkpoint α) (name : String)
    (resource : Resource) : Option (Estimator.State α) :=
  (checkpoint.entries.find? name).bind fun saved => saved.find? resource

/-- Everything that a spec takes over from a checkpoint is ordered. -/
def OrderedFor [Scalar α] (spec : Spec α) (checkpoint : Checkpoint α) :
    Prop :=
  ∀ entry ∈ checkpoint.entries.entries, ∀ saved ∈ entry.2.entries,
    spec.asksFor saved.1 = true → saved.2.Ordered

instance [Scalar α] (spec : Spec α) (checkpoint : Checkpoint α) :
    Decidable (checkpoint.OrderedFor spec) :=
  inferInstanceAs (Decidable (∀ entry ∈ checkpoint.entries.entries, _))

theorem orderedFor_iff [Scalar α] {spec : Spec α}
    {checkpoint : Checkpoint α} :
    checkpoint.OrderedFor spec ↔
      ∀ name resource state, checkpoint.state? name resource = some state →
        spec.asksFor resource = true → state.Ordered := by
  constructor
  · intro ordered name resource state held
    obtain ⟨entry, named, held⟩ := Option.bind_eq_some_iff.1 held
    exact ordered _ (SortedMap.find?_eq_some_iff.1 named) _
      (SortedMap.find?_eq_some_iff.1 held)
  · rintro ordered ⟨name, entry⟩ listed ⟨resource, state⟩ saved
    refine ordered name resource state ?_
    rw [state?, SortedMap.find?_eq_some_iff.2 listed]
    exact SortedMap.find?_eq_some_iff.2 saved

end Checkpoint

namespace Profiler

variable {α : Type} [Analytic α] {profiler : Profiler α} (now : Instant)
  {checkpoint : Checkpoint α}

/-- The profiler has what a checkpoint holds for its spec, and what another
one had besides. -/
def Continues (profiler : Profiler α) (checkpoint : Checkpoint α)
    (earlier : Profiler α) : Prop :=
  ∀ name resource, profiler.estimator? name resource =
    (((checkpoint.state? name resource).filter fun _ =>
      earlier.spec.asksFor resource).map
        (Estimator.forResource resource earlier.spec.quantiles).load).or
      (earlier.estimator? name resource)

theorem continues_takeOver :
    (profiler.takeOver now checkpoint).Continues checkpoint profiler :=
  fun name resource => estimator?_takeOver profiler now checkpoint name
    resource

theorem bounded_takeOver_iff (bounded : profiler.Bounded) :
    (profiler.takeOver now checkpoint).Bounded ↔
      checkpoint.OrderedFor profiler.spec := by
  rw [Checkpoint.orderedFor_iff]
  constructor
  · intro taken name resource state held asked
    refine taken name resource
      ((Estimator.forResource resource profiler.spec.quantiles).load state) ?_
    rw [continues_takeOver now name resource, held, Option.filter_some,
      if_pos asked]
    rfl
  · intro ordered name resource estimator found
    rw [continues_takeOver now name resource, Option.or_eq_some_iff] at found
    rcases found with loaded | ⟨-, kept⟩
    · obtain ⟨state, saved, rfl⟩ := Option.map_eq_some_iff.1 loaded
      obtain ⟨held, asked⟩ := Option.filter_eq_some_iff.1 saved
      exact ordered name resource state held asked
    · exact bounded name resource estimator kept

/-- A sound profiler can report what it takes over iff that is ordered. -/
theorem Sound.reportable_takeOver_iff {key : ProfileKey}
    (sound : profiler.Sound key) :
    (profiler.takeOver now checkpoint).Reportable ↔
      checkpoint.OrderedFor profiler.spec := by
  rw [← bounded_takeOver_iff now sound.bounded]
  exact ⟨bounded_of_reportable sound.valid
    (follows_takeOver sound.follows now checkpoint), reportable_of_bounded⟩

theorem Sound.restore_of_ordered {key : ProfileKey}
    (sound : profiler.Sound key)
    (ordered : checkpoint.OrderedFor profiler.spec) :
    ∃ restored, profiler.restore now checkpoint = .ok restored ∧
      restored.Sound key ∧ restored.Continues checkpoint profiler := by
  have reportable := (sound.reportable_takeOver_iff now).2 ordered
  have succeeded := restore_eq_ok_iff.2 ⟨reportable, rfl⟩
  exact ⟨_, succeeded, sound.restore succeeded, continues_takeOver now⟩

theorem Sound.restore_of_unordered {key : ProfileKey}
    (sound : profiler.Sound key)
    (unordered : ¬ checkpoint.OrderedFor profiler.spec) :
    profiler.restore now checkpoint = .error .unorderedBounds :=
  if_neg (mt (sound.reportable_takeOver_iff now).1 unordered)

end Profiler

namespace Manager

variable {σ α : Type} [Analytic α] [CheckpointStore σ α]
  {manager : Manager α} {resolver : Resolver} (now : Instant) {store : σ}
  {key : ProfileKey} {spec : Spec α}

/-- What becomes of the registration of a new profile is decided by what the
store answers for its key. -/
theorem register_new
    (accepted : manager.accept resolver key spec = .ok ())
    (unknown : manager.registry.find? key = none)
    {stored : Except Failure (Option (Checkpoint α))}
    (loaded : CheckpointStore.load store key = stored) :
    manager.register resolver now store key spec =
      (restoreFrom (.create key spec) now stored).map
        fun (profiler, restored) => .ok
          ⟨manager.install key profiler, true, restored, !stored.isOk⟩ := by
  subst loaded
  simp only [register, accepted, enter, unknown]
  cases restoreFrom (.create key spec) now
    (CheckpointStore.load store key) <;> rfl

theorem register_of_ordered
    (accepted : manager.accept resolver key spec = .ok ())
    (unknown : manager.registry.find? key = none)
    {checkpoint : Checkpoint α}
    (loaded : CheckpointStore.load store key = .ok (some checkpoint))
    (ordered : checkpoint.OrderedFor spec) :
    ∃ profiler : Profiler α,
      manager.register resolver now store key spec =
          .ok (.ok ⟨manager.install key profiler, true, true, false⟩) ∧
        profiler.Sound key ∧
        profiler.Continues checkpoint (.create key spec) := by
  obtain ⟨valid, agrees⟩ := valid_of_accept accepted
  obtain ⟨profiler, succeeded, sound, continues⟩ :=
    (Profiler.sound_create valid agrees).restore_of_ordered now ordered
  refine ⟨profiler, ?_, sound, continues⟩
  simp only [register_new now accepted unknown loaded, restoreFrom, succeeded]
  rfl

theorem register_of_unordered
    (accepted : manager.accept resolver key spec = .ok ())
    (unknown : manager.registry.find? key = none)
    {checkpoint : Checkpoint α}
    (loaded : CheckpointStore.load store key = .ok (some checkpoint))
    (unordered : ¬ checkpoint.OrderedFor spec) :
    manager.register resolver now store key spec =
      .error .unorderedBounds := by
  obtain ⟨valid, agrees⟩ := valid_of_accept accepted
  have stopped := (Profiler.sound_create valid agrees).restore_of_unordered
    now unordered
  simp only [register_new now accepted unknown loaded, restoreFrom, stopped]
  rfl

theorem register_of_failure {failure : Failure}
    (refused : manager.accept resolver key spec = .error failure) :
    manager.register resolver now store key spec = .ok (.error failure) := by
  simp only [register, refused]

theorem register_known {profiler : Profiler α}
    (accepted : manager.accept resolver key spec = .ok ())
    (known : manager.registry.find? key = some profiler) :
    manager.register resolver now store key spec =
      .ok (.ok ⟨manager.install key (profiler.update spec), false, false,
        false⟩) := by
  simp only [register, accepted, enter, known]
  rfl

variable (manager resolver store key spec) in
/-- A registration is stopped iff it is the first one of its key and the store
has a checkpoint that is not ordered for the spec. -/
theorem register_eq_error_iff (crash : Crash) :
    manager.register resolver now store key spec = .error crash ↔
      crash = .unorderedBounds ∧
        manager.accept resolver key spec = .ok () ∧
        manager.registry.find? key = none ∧
        ∃ checkpoint : Checkpoint α,
          CheckpointStore.load store key = .ok (some checkpoint) ∧
            ¬ checkpoint.OrderedFor spec := by
  constructor
  · intro stopped
    cases accepted : manager.accept resolver key spec with
    | error failure =>
        rw [register_of_failure now accepted] at stopped
        cases stopped
    | ok =>
        cases unknown : manager.registry.find? key with
        | some profiler =>
            rw [register_known now accepted unknown] at stopped
            cases stopped
        | none =>
            cases loaded : (CheckpointStore.load store key :
                Except Failure (Option (Checkpoint α))) with
            | error failure =>
                rw [register_new now accepted unknown loaded] at stopped
                cases stopped
            | ok held =>
                cases held with
                | none =>
                    rw [register_new now accepted unknown loaded] at stopped
                    cases stopped
                | some checkpoint =>
                    by_cases ordered : checkpoint.OrderedFor spec
                    · obtain ⟨profiler, registered, -⟩ :=
                        register_of_ordered now accepted unknown
                          loaded ordered
                      rw [registered] at stopped
                      cases stopped
                    · rw [register_of_unordered now accepted unknown loaded
                        ordered] at stopped
                      cases stopped
                      exact ⟨rfl, rfl, rfl, checkpoint, rfl, ordered⟩
  · rintro ⟨rfl, accepted, unknown, checkpoint, loaded, unordered⟩
    exact register_of_unordered now accepted unknown loaded unordered

/-- Restoring a checkpoint into a sound profiler, and the first registration
of a profile with it, is stopped iff the checkpoint is not ordered for the
spec.  Any other one is taken over; without a checkpoint, or with one that
cannot be read, the profile starts empty. -/
theorem stopped_iff_unordered (manager : Manager α) (resolver : Resolver)
    (now : Instant) (store : σ) (key : ProfileKey) (spec : Spec α) :
    let outcome := manager.register resolver now store key spec
    let stored : Except Failure (Option (Checkpoint α)) :=
      CheckpointStore.load store key
    (∀ crash, outcome = .error crash ↔
      crash = .unorderedBounds ∧
        manager.accept resolver key spec = .ok () ∧
        manager.registry.find? key = none ∧
        ∃ checkpoint, stored = .ok (some checkpoint) ∧
          ¬ checkpoint.OrderedFor spec) ∧
    (manager.accept resolver key spec = .ok () →
      manager.registry.find? key = none →
        let empty := manager.install key (.create key spec)
        (∀ checkpoint, stored = .ok (some checkpoint) →
          checkpoint.OrderedFor spec → ∃ profiler : Profiler α,
            outcome =
              .ok (.ok ⟨manager.install key profiler, true, true, false⟩) ∧
            profiler.Sound key ∧
            profiler.Continues checkpoint (.create key spec)) ∧
        (stored = .ok none →
          outcome = .ok (.ok ⟨empty, true, false, false⟩)) ∧
        ∀ failure, stored = .error failure →
          outcome = .ok (.ok ⟨empty, true, false, true⟩)) ∧
    ∀ (profiler : Profiler α) (checkpoint : Checkpoint α),
      profiler.Sound key →
        (checkpoint.OrderedFor profiler.spec →
          ∃ restored, profiler.restore now checkpoint = .ok restored ∧
            restored.Sound key ∧ restored.Continues checkpoint profiler) ∧
        (¬ checkpoint.OrderedFor profiler.spec →
          profiler.restore now checkpoint = .error .unorderedBounds) := by
  intro outcome stored
  refine ⟨register_eq_error_iff manager resolver now store key spec, ?_, ?_⟩
  · intro accepted unknown empty
    refine ⟨fun checkpoint loaded ordered =>
      register_of_ordered now accepted unknown loaded ordered, ?_, ?_⟩
    · exact fun absent => register_new now accepted unknown absent
    · exact fun failure unreadable =>
        register_new now accepted unknown unreadable
  · exact fun profiler checkpoint sound =>
      ⟨sound.restore_of_ordered now, sound.restore_of_unordered now⟩

end Manager

namespace Directory

open Engine (bothSources)

/-- A directory with nothing but a text in the file of a profile. -/
def withText (text : String) : Directory :=
  ⟨"/checkpoints", .present ((∅ : SortedMap String Node).insert
    (fileName (stem bothSources.key)) (.file text))⟩

/-- A checkpoint with given extremes for its one sample, a total weight that
is not that of its buckets, and a bucket far beyond its layout. -/
def tampered (least greatest : Float) : Checkpoint Float :=
  ⟨bothSources.key, ⟨200, 0⟩, SortedMap.ofList [("app", SortedMap.ofList
    [(.cpu, {
      mean := 1
      stdDev := 0
      varianceSum := 0
      minValue := least
      maxValue := greatest
      quantiles := ∅
      firstSampleStart := none
      lastSampleStart := some ⟨100, 0⟩
      totalSamplesCount := 1
      histogram := ⟨⟨1, 2, 3⟩, 5, [⟨4000000000, 0, -1⟩]⟩ })])]⟩

theorem load_withText {checkpoint : Checkpoint Float}
    (own : checkpoint.key = bothSources.key)
    (legible : checkpoint.Legible) :
    CheckpointStore.load (withText checkpoint.toJson.render)
      bothSources.key = .ok (some checkpoint) := by
  have held : (withText checkpoint.toJson.render).nodes.find?
      (fileName (stem checkpoint.key)) = some (nodeOf checkpoint) := by
    rw [own]
    exact SortedMap.find?_insert_self _ _ _
  rw [← own, load_eq, load_of_file rfl legible held]
  rfl

def accepting : Manager Float := ⟨∅, ∅, true⟩

open Profiler.Overlap (resolver)

theorem accepted_bothSources :
    accepting.accept resolver bothSources.key bothSources.spec = .ok () :=
  Manager.accept_eq_ok_iff.2 ⟨⟨rfl, nofun⟩, by decide +kernel,
    by decide +kernel⟩

theorem load_empty_text :
    (CheckpointStore.load (withText "") bothSources.key :
      Except Failure (Option (Checkpoint Float))) =
        .error ((withText "").failure
          ⟨.decode (fileName (stem bothSources.key)), .undecodable ""⟩) := by
  have held : (withText "").nodes.find? (fileName (stem bothSources.key)) =
      some (.file "") := SortedMap.find?_insert_self _ _ _
  have reachable : (withText "").reachable = true := rfl
  have undecodable : (Json.ofText? "" >>= Checkpoint.ofJson? :
      Option (Checkpoint Float)) = none := by decide +kernel
  have unread : (withText "").readFile (α := Float)
      (fileName (stem bothSources.key)) =
        .error
          ⟨.decode (fileName (stem bothSources.key)), .undecodable ""⟩ := by
    simp only [readFile, reachable, if_true, held, undecodable]
  rw [load_eq, load, unread]
  rfl

/-- A file that has been damaged stops the registration of its profile if it
can still be read, and does not stop it if it cannot. -/
theorem readable_damage_stops :
    let register (directory : Directory) :=
      accepting.register resolver ⟨300, 0⟩ directory bothSources.key
        bothSources.spec
    CheckpointStore.load (withText (tampered 2 1).toJson.render)
        bothSources.key = .ok (some (tampered 2 1)) ∧
      register (withText (tampered 2 1).toJson.render) =
        .error .unorderedBounds ∧
      register (withText "") =
        .ok (.ok ⟨accepting.install bothSources.key
          (.create bothSources.key bothSources.spec), true, false,
          true⟩) := by
  intro register
  have legible : (tampered 2 1).Legible := by decide +kernel
  have loaded := load_withText rfl legible
  refine ⟨loaded, ?_, ?_⟩
  · exact Manager.register_of_unordered _ accepted_bothSources rfl loaded
      (by decide +kernel)
  · exact Manager.register_new _ accepted_bothSources rfl load_empty_text

/-- Damage that leaves the extremes in order is taken over. -/
theorem ordered_damage_taken_over :
    let directory := withText (tampered 1 2).toJson.render
    ∃ profiler,
      accepting.register resolver ⟨300, 0⟩ directory bothSources.key
          bothSources.spec =
        .ok (.ok ⟨accepting.install bothSources.key profiler, true, true,
          false⟩) ∧
        profiler.Continues (tampered 1 2)
          (.create bothSources.key bothSources.spec) := by
  intro directory
  have legible : (tampered 1 2).Legible := by decide +kernel
  have loaded := load_withText rfl legible
  obtain ⟨-, registers, -⟩ := Manager.stopped_iff_unordered accepting
    resolver ⟨300, 0⟩ directory bothSources.key bothSources.spec
  obtain ⟨takesOver, -⟩ := registers accepted_bothSources rfl
  obtain ⟨profiler, registered, -, continues⟩ :=
    takesOver (tampered 1 2) loaded (by decide +kernel)
  exact ⟨profiler, registered, continues⟩

end Directory

end UsageForecast
