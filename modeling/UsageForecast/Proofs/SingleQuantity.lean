import UsageForecast.Daemon.Tasks
import UsageForecast.Proofs.CacheHistory
import UsageForecast.Proofs.KeyText
import UsageForecast.Proofs.Readings

/-!
# One quantity apart

Two bodies of the metrics API may differ in the quantity of one resource of
one container of a pod.  Either of them is read as a snapshot, or neither is,
and the snapshots show the same of everything else.  A cache that takes over
the one or the other reads the same at all other places, and the time of a pod
does not depend on what was measured in it.
-/

namespace UsageForecast

namespace Json

/-- Objects that differ in the value of one member only. -/
def MemberDiffers (name : String) (differ : Json → Json → Prop)
    (left right : Json) : Prop :=
  ∃ before after first second, differ first second ∧
    left = .object (before ++ (name, first) :: after) ∧
    right = .object (before ++ (name, second) :: after)

/-- Arrays that differ in one item only. -/
def ItemDiffers (differ : Json → Json → Prop) (left right : Json) : Prop :=
  ∃ before after first second, differ first second ∧
    left = .array (before ++ first :: after) ∧
    right = .array (before ++ second :: after)

section

variable {name : String} {differ : Json → Json → Prop} {left right : Json}

private theorem member?_middle (asked name : String) (value : Json)
    (before after : List (String × Json)) :
    (Json.object (before ++ (name, value) :: after)).member? asked =
      ((Json.object after).member? asked).or
        (if name = asked then some value
        else (Json.object before).member? asked) := by
  simp only [member?, List.reverse_append, List.reverse_cons,
    List.find?_append]
  cases after.reverse.find? fun member => member.1 == asked with
  | some found => simp
  | none => by_cases same : name = asked <;> simp [same]

theorem MemberDiffers.member?_of_ne
    (differs : MemberDiffers name differ left right) {other : String}
    (different : other ≠ name) : left.member? other = right.member? other := by
  obtain ⟨before, after, first, second, -, rfl, rfl⟩ := differs
  rw [member?_middle, member?_middle, if_neg (Ne.symm different),
    if_neg (Ne.symm different)]

-- Of a repeated name the last member counts, and it may be another one.
/-- The members of the name differ, if they are not the same. -/
theorem MemberDiffers.member?
    (differs : MemberDiffers name differ left right) :
    left.member? name = right.member? name ∨
      ∃ first second, differ first second ∧
        left.member? name = some first ∧
          right.member? name = some second := by
  obtain ⟨before, after, first, second, differ, rfl, rfl⟩ := differs
  rw [member?_middle, member?_middle, if_pos rfl, if_pos rfl]
  cases (Json.object after).member? name with
  | some value => exact .inl rfl
  | none => exact .inr ⟨first, second, differ, rfl, rfl⟩

end

end Json

namespace PodUsage

variable {α : Type}

/-- Usages of a pod that differ in one measurement only. -/
structure SameBut (container : String) (resource : Resource)
    (left right : PodUsage α) : Prop where
  timestamp : left.timestamp = right.timestamp
  others : ∀ name other, (name, other) ≠ (container, resource) →
    left.find? name other = right.find? name other

theorem find?_insert (usage : PodUsage α) (container name : String)
    (resource other : Resource) (measurement : Measurement α) :
    (usage.insert container resource measurement).find? name other =
      if (name, other) = (container, resource) then some measurement
      else usage.find? name other := by
  unfold insert find?
  by_cases named : name = container
  · subst named
    rw [SortedMap.find?_alter_self, Option.bind_eq_bind, Option.bind_some,
      SortedMap.find?_insert]
    by_cases same : other = resource
    · simp [same]
    · cases usage.containers.find? name <;> simp [same]
  · rw [SortedMap.find?_alter_of_ne _ _ named]
    simp [named]

variable {container : String} {resource : Resource}
  {left right : PodUsage α}

theorem SameBut.refl (usage : PodUsage α) :
    SameBut container resource usage usage := ⟨rfl, fun _ _ _ => rfl⟩

theorem SameBut.symm (same : SameBut container resource left right) :
    SameBut container resource right left :=
  ⟨same.timestamp.symm, fun name other different =>
    (same.others name other different).symm⟩

theorem SameBut.trans {last : PodUsage α}
    (first : SameBut container resource left right)
    (second : SameBut container resource right last) :
    SameBut container resource left last :=
  ⟨first.timestamp.trans second.timestamp, fun name other different =>
    (first.others name other different).trans
      (second.others name other different)⟩

theorem SameBut.insert (same : SameBut container resource left right)
    (name : String) (other : Resource) (measurement : Measurement α) :
    SameBut container resource (left.insert name other measurement)
      (right.insert name other measurement) where
  timestamp := same.timestamp
  others asked found different := by
    rw [find?_insert, find?_insert, same.others asked found different]

theorem sameBut_insert (usage : PodUsage α)
    (measurement : Measurement α) :
    SameBut container resource usage
      (usage.insert container resource measurement) where
  timestamp := rfl
  others asked found different := by rw [find?_insert, if_neg different]

end PodUsage

/-- Snapshots that differ in one measurement only. -/
structure UsageSnapshot.SameBut {α : Type} (pod : PodName)
    (container : String) (resource : Resource)
    (left right : UsageSnapshot α) : Prop where
  others : ∀ other, other ≠ pod → left.find? other = right.find? other
  shown : Option.Rel (PodUsage.SameBut container resource)
    (left.find? pod) (right.find? pod)

theorem UsageSnapshot.SameBut.refl {α : Type} {pod : PodName}
    {container : String} {resource : Resource} (snapshot : UsageSnapshot α) :
    UsageSnapshot.SameBut pod container resource snapshot snapshot where
  others _ _ := rfl
  shown := by
    cases SortedMap.find? snapshot pod with
    | none => exact .none
    | some usage => exact .some (.refl usage)

namespace PodMetrics

variable {α : Type}

/-- Records of a container that differ in the quantity of one resource. -/
def ContainersDiffer (container : String) (resource : Resource)
    (left right : Json) : Prop :=
  (left.member? "name").bind Json.text? = some container ∧
    Json.MemberDiffers "usage"
      (Json.MemberDiffers resource.name fun _ _ => True) left right

/-- Objects of a pod that differ in one quantity of one container. -/
def PodsDiffer (pod : PodName) (container : String) (resource : Resource)
    (left right : Json) : Prop :=
  (ApiObject.looseMetadata? left).bind ApiObject.Metadata.id? = some pod ∧
    Json.MemberDiffers "containers"
      (Json.ItemDiffers (ContainersDiffer container resource)) left right

/-- Bodies that differ in one quantity of one container of a pod. -/
def BodiesDiffer (pod : PodName) (container : String) (resource : Resource) :
    Json → Json → Prop :=
  Json.MemberDiffers "items"
    (Json.ItemDiffers (PodsDiffer pod container resource))

/-- Servers whose lists of pod metrics differ in one quantity. -/
def AnswersDiffer (pod : PodName) (container : String) (resource : Resource)
    (left right : Http.Server) : Prop :=
  ∃ status leftText rightText leftBody rightBody,
    left (.read kind.listPath) = some ⟨status, leftText⟩ ∧
    right (.read kind.listPath) = some ⟨status, rightText⟩ ∧
    Json.ofText? leftText = some leftBody ∧
    Json.ofText? rightText = some rightBody ∧
    BodiesDiffer pod container resource leftBody rightBody

section

variable {pod : PodName} {container : String} {resource : Resource}
  {left right : Json} {now : Instant}

private theorem quantity?_of_ne {other : Resource}
    (differs : Json.MemberDiffers resource.name (fun _ _ => True) left right)
    (different : other ≠ resource) :
    quantity? left other = quantity? right other := by
  have named : other.name ≠ resource.name := by
    intro same
    have read := Resource.ofName?_name other
    rw [same, Resource.ofName?_name] at read
    exact different (Option.some.inj read).symm
  rw [quantity?, differs.member?_of_ne named, quantity?]

/-- Add a quantity, if there is one. -/
private def addQuantity (container : String) (usage : PodUsage α)
    (read : Option (Resource × String)) : PodUsage α :=
  match read with
  | some (resource, quantity) =>
      usage.insert container resource (.text quantity)
  | none => usage

private theorem addContainer_eq_foldl (usage : PodUsage α)
    (container : String) (quantities : Json) :
    addContainer usage
        (container, Resource.all.filterMap (quantity? quantities)) =
      Resource.all.foldl
        (fun usage resource =>
          addQuantity container usage (quantity? quantities resource))
        usage := by
  rw [addContainer, List.foldl_filterMap]
  congr 1
  funext usage resource
  cases quantity? quantities resource <;> rfl

private theorem sameBut_addQuantity {first second : PodUsage α}
    (same : first.SameBut container resource second)
    (differs : Json.MemberDiffers resource.name (fun _ _ => True) left right)
    (other : Resource) :
    (addQuantity container first (quantity? left other)).SameBut container
      resource (addQuantity container second (quantity? right other)) := by
  by_cases asked : other = resource
  · subst asked
    have own (usage : PodUsage α) (quantities : Json) :
        usage.SameBut container other
          (addQuantity container usage (quantity? quantities other)) := by
      unfold quantity?
      cases quantities.member? other.name with
      | none => exact .refl usage
      | some quantity =>
          simp only [Option.bind_eq_bind, Option.bind_some]
          cases quantity.text? with
          | none => exact .refl usage
          | some text => exact usage.sameBut_insert (.text text)
    exact (own first left).symm.trans (same.trans (own second right))
  · rw [quantity?_of_ne differs asked]
    cases quantity? right other with
    | none => exact same
    | some read => exact same.insert container read.1 (.text read.2)

private theorem sameBut_addContainer {first second : PodUsage α}
    (same : first.SameBut container resource second)
    (read : String × List (Resource × String)) :
    (addContainer first read).SameBut container resource
      (addContainer second read) :=
  List.foldl_rel same fun quantity _ _ _ still =>
    still.insert read.1 quantity.1 (.text quantity.2)

/-- Records of a container that differ in one quantity are read alike, or as
the quantities of the container. -/
private theorem containerUsage?_of_differ
    (differ : ContainersDiffer container resource left right) :
    containerUsage? left = containerUsage? right ∨
      ∃ first second,
        Json.MemberDiffers resource.name (fun _ _ => True) first second ∧
        containerUsage? left = some (container,
          Resource.all.filterMap (quantity? first)) ∧
        containerUsage? right = some (container,
          Resource.all.filterMap (quantity? second)) := by
  obtain ⟨named, differs⟩ := differ
  have also : (right.member? "name").bind Json.text? = some container := by
    rw [← differs.member?_of_ne (by decide), named]
  simp only [containerUsage?, named, also]
  rcases differs.member? with same | ⟨first, second, apart, found, other⟩
  · exact .inl (by rw [same])
  · refine .inr ⟨first, second, apart, ?_, ?_⟩
    · obtain ⟨before, after, _, _, -, rfl, -⟩ := apart
      rw [found]
      rfl
    · obtain ⟨before, after, _, _, -, -, rfl⟩ := apart
      rw [other]
      rfl

theorem sameBut_podUsage
    (differs : Json.MemberDiffers "containers"
      (Json.ItemDiffers (ContainersDiffer container resource)) left right) :
    (podUsage now left : PodUsage α).SameBut container resource
      (podUsage now right) := by
  have time : timestamp now left = timestamp now right := by
    rw [timestamp, differs.member?_of_ne (by decide), timestamp]
  unfold podUsage
  rw [time]
  rcases differs.member? with same |
      ⟨_, _, ⟨before, after, first, second, differ, rfl, rfl⟩, found, other⟩
  · rw [same]
    exact .refl _
  · rw [found, other]
    simp only [Option.bind_some, Json.items?, Option.getD_some,
      List.filterMap_append, List.foldl_append, List.filterMap_cons]
    generalize (before.filterMap containerUsage?).foldl addContainer
      (.empty (timestamp now right)) = usage
    rcases containerUsage?_of_differ differ with alike |
        ⟨first, second, apart, left, right⟩
    · rw [alike]
      exact .refl _
    · simp only [left, right, List.foldl_cons]
      refine List.foldl_rel ?_ fun read _ _ _ still =>
        sameBut_addContainer still read
      rw [addContainer_eq_foldl, addContainer_eq_foldl]
      exact List.foldl_rel (.refl usage) fun other _ _ _ still =>
        sameBut_addQuantity still apart other

variable (now) in
/-- Objects of a pod that differ in one quantity are both reports of the
pod. -/
private theorem item?_of_differ
    (differ : PodsDiffer pod container resource left right) :
    item? now left = some (some (pod, (podUsage now left : PodUsage α))) ∧
      item? now right =
        some (some (pod, (podUsage now right : PodUsage α))) := by
  obtain ⟨named, differs⟩ := differ
  have same : ApiObject.looseMetadata? left =
      ApiObject.looseMetadata? right := by
    rw [ApiObject.looseMetadata?, differs.member?_of_ne (by decide),
      ApiObject.looseMetadata?]
  have also := same ▸ named
  obtain ⟨before, after, first, second, -, rfl, rfl⟩ := differs
  obtain ⟨metadata, read, named⟩ := Option.bind_eq_some_iff.1 named
  obtain ⟨metadata', read', named'⟩ := Option.bind_eq_some_iff.1 also
  simp [item?, ApiObject.reading, read, named, read', named']

variable (pod container resource) in
/-- Lists of pods that differ in one measurement only. -/
private def ListsDiffer (left right : List (Option (PodName × PodUsage α))) :
    Prop :=
  left = right ∨ ∃ before after first second,
    first.SameBut container resource second ∧
      left = before ++ some (pod, first) :: after ∧
      right = before ++ some (pod, second) :: after

private theorem listsDiffer_refl
    (read : Option (List (Option (PodName × PodUsage α)))) :
    Option.Rel (ListsDiffer pod container resource) read read := by
  cases read with
  | none => exact .none
  | some list => exact .some (.inl rfl)

variable (now) in
private theorem listOf_of_differ
    (differ : Json.ItemDiffers (PodsDiffer pod container resource) left
      right) :
    Option.Rel (ListsDiffer (α := α) pod container resource)
      (Json.listOf (item? now) left) (Json.listOf (item? now) right) := by
  obtain ⟨before, after, first, second, apart, rfl, rfl⟩ := differ
  obtain ⟨read, also⟩ := item?_of_differ (α := α) now apart
  simp only [Json.listOf, Json.items?, Option.bind_eq_bind,
    Option.bind_some, List.mapM_append, List.mapM_cons, read, also]
  cases before.mapM (item? (α := α) now) with
  | none => exact .none
  | some before =>
      cases after.mapM (item? (α := α) now) with
      | none => exact .none
      | some after =>
          exact .some (.inr ⟨before, after, _, _, sameBut_podUsage apart.2,
            rfl, rfl⟩)

variable (now) in
/-- Bodies that differ in one quantity list the same pods. -/
private theorem items?_of_differ
    (differ : BodiesDiffer pod container resource left right) :
    Option.Rel (ListsDiffer (α := α) pod container resource)
      (ApiObject.items? (item? now) left)
      (ApiObject.items? (item? now) right) := by
  have metadata : left.member? "metadata" = right.member? "metadata" :=
    differ.member?_of_ne (by decide)
  have items := differ.member?
  obtain ⟨_, _, _, _, -, rfl, rfl⟩ := differ
  simp only [ApiObject.items?, ApiObject.reading, metadata]
  rcases items with same | ⟨first, second, apart, found, other⟩
  · rw [same]
    exact listsDiffer_refl _
  · rw [found, other]
    have lists := listOf_of_differ (α := α) now apart
    obtain ⟨before, after, _, _, -, rfl, rfl⟩ := apart
    split
    · exact lists
    · exact lists
    · exact .none

/-- The pods of a list that can be read, or a fault. -/
theorem outcome_fetch (server : Http.Server) :
    (fetch server now : Http.Exchange _ (UsageSnapshot α)).outcome =
      match server (.read kind.listPath) >>=
          ApiObject.body? (ApiObject.items? (item? now)) with
      | some items => .ok (SortedMap.ofList (items.filterMap id))
      | none => .error (.listing "pod metrics") := by
  simp only [fetch, ApiObject.list, bind, Http.Exchange.andThen,
    Http.Exchange.ask]
  cases server (.read kind.listPath) with
  | none => rfl
  | some response =>
      simp only [Option.bind_some, Http.Exchange.ofExcept]
      cases ApiObject.body? (ApiObject.items? (item? (α := α) now)) response
        <;> rfl

private theorem sameBut_ofList
    {first second : List (Option (PodName × PodUsage α))}
    (differ : ListsDiffer pod container resource first second) :
    UsageSnapshot.SameBut pod container resource
      (SortedMap.ofList (first.filterMap id))
      (SortedMap.ofList (second.filterMap id)) := by
  obtain rfl | ⟨before, after, first, second, same, rfl, rfl⟩ := differ
  · exact .refl _
  · have pods (usage : PodUsage α) :
        (before ++ some (pod, usage) :: after).filterMap id =
          before.filterMap id ++ (pod, usage) :: after.filterMap id := by
      rw [List.filterMap_append]
      rfl
    rw [pods, pods]
    constructor
    · intro other different
      rw [SortedMap.find?_ofList_middle, SortedMap.find?_ofList_middle,
        if_neg different, if_neg different]
    · rw [SortedMap.find?_ofList_middle, SortedMap.find?_ofList_middle,
        if_pos rfl, if_pos rfl]
      cases (SortedMap.ofList (after.filterMap id)).find? pod with
      | none => exact .some same
      | some usage => exact .some (.refl usage)

variable (now) in
/-- What is read from bodies that differ in one quantity: nothing from either
of them, or snapshots that differ in nothing else. -/
theorem fetch_of_differ {first second : Http.Server}
    (differ : AnswersDiffer pod container resource first second) :
    (∃ fault,
      (fetch first now : Http.Exchange _ (UsageSnapshot α)).outcome =
        .error fault ∧
      (fetch second now : Http.Exchange _ (UsageSnapshot α)).outcome =
        .error fault) ∨
    ∃ left right : UsageSnapshot α,
      (fetch first now).outcome = .ok left ∧
      (fetch second now).outcome = .ok right ∧
      left.SameBut pod container resource right := by
  obtain ⟨status, _, _, leftBody, rightBody, answered, also, read, readToo,
    differ⟩ := differ
  have lists := items?_of_differ (α := α) now differ
  rw [outcome_fetch, outcome_fetch, answered, also]
  simp only [Option.bind_eq_bind, Option.bind_some, ApiObject.body?, read,
    readToo]
  cases Http.Status.isError status with
  | true => exact .inl ⟨_, rfl, rfl⟩
  | false =>
      simp only [Bool.false_eq_true, if_false]
      generalize ApiObject.items? (item? now) leftBody = first at lists
      generalize ApiObject.items? (item? now) rightBody = second at lists
      cases lists with
      | none => exact .inl ⟨_, rfl, rfl⟩
      | some lists => exact .inr ⟨_, _, rfl, rfl, sameBut_ofList lists⟩

end

end PodMetrics

/-- What two fetches deliver that see usage which differs in one quantity
only: snapshots of some back end, or what is read from lists of pod metrics. -/
inductive FetchesDiffer {α : Type} (pod : PodName) (container : String)
    (resource : Resource) :
    Except String (UsageSnapshot α) → Except String (UsageSnapshot α) → Prop
  | snapshots {left right : UsageSnapshot α} :
      left.SameBut pod container resource right →
      FetchesDiffer pod container resource (.ok left) (.ok right)
  | answers {now : Instant} {left right : Http.Server} :
      PodMetrics.AnswersDiffer pod container resource left right →
      FetchesDiffer pod container resource
        (Daemon.outcome (PodMetrics.fetch left now))
        (Daemon.outcome (PodMetrics.fetch right now))

/-- Caches that read the same at all places but one, and do not tell two
times there. -/
structure Repository.SameBut {α : Type} [Scalar α] (source : Source)
    (pod : PodName) (container : String) (resource : Resource)
    (left right : Repository α) : Prop where
  others : ∀ other asked name owner,
    (other, asked, name, owner) ≠ (source, resource, container, pod) →
      left.reading? other asked name owner =
        right.reading? other asked name owner
  times : ∀ first second,
    left.reading? source resource container pod = some first →
      right.reading? source resource container pod = some second →
        first.timestamp = second.timestamp

section

variable {α : Type} {pod : PodName} {container : String}
  {resource : Resource}

/-- Either both fetches fail for one reason, or both of them succeed. -/
theorem FetchesDiffer.cases {left right : Except String (UsageSnapshot α)}
    (differ : FetchesDiffer pod container resource left right) :
    left = right ∨ ∃ first second : UsageSnapshot α,
      left = .ok first ∧ right = .ok second ∧
        first.SameBut pod container resource second := by
  cases differ with
  | snapshots same => exact .inr ⟨_, _, rfl, rfl, same⟩
  | @answers now _ _ differ =>
      unfold Daemon.outcome
      rcases PodMetrics.fetch_of_differ now differ with
        ⟨fault, failed, also⟩ | ⟨first, second, read, also, same⟩
      · rw [failed, also]
        exact .inl rfl
      · rw [read, also]
        exact .inr ⟨first, second, rfl, rfl, same⟩

theorem Repository.snapshot?_refresh (repository : Repository α)
    (now : Instant) (source other : Source)
    (outcome : Except String (UsageSnapshot α)) :
    (repository.refresh now source outcome).1.snapshot? other =
      (repository.caches.find? other).bind fun cache =>
        if other = source then outcome.toOption.or cache.snapshot
        else cache.snapshot := by
  rw [Repository.snapshot?, Repository.find?_refresh]
  cases repository.caches.find? other with
  | none => rfl
  | some cache =>
      by_cases same : other = source
      · cases outcome <;>
          simp [same, Cache.taken, Cache.refresh, Cache.replace,
            Cache.recordFailure, Except.toOption]
      · simp [same, Cache.taken]

variable [Scalar α]

namespace UsageSnapshot.SameBut

variable {left right : UsageSnapshot α}

theorem reading? (same : left.SameBut pod container resource right)
    {asked : Resource} {name : String} {owner : PodName}
    (different : (asked, name, owner) ≠ (resource, container, pod)) :
    UsageSnapshot.reading? left asked name owner =
      UsageSnapshot.reading? right asked name owner := by
  unfold UsageSnapshot.reading?
  by_cases owned : owner = pod
  · subst owned
    have apart : (name, asked) ≠ (container, resource) := by
      rintro ⟨⟩
      exact different rfl
    have shown := same.shown
    generalize left.find? owner = first at shown ⊢
    generalize right.find? owner = second at shown ⊢
    cases shown with
    | none => rfl
    | some alike =>
        simp only [Option.bind_eq_bind, Option.bind_some,
          alike.others name asked apart, alike.timestamp]
  · rw [same.others owner owned]

/-- The time of a reading is that of its pod. -/
theorem times (same : left.SameBut pod container resource right)
    {first second : Sample α}
    (read : UsageSnapshot.reading? left resource container pod = some first)
    (also : UsageSnapshot.reading? right resource container pod =
      some second) : first.timestamp = second.timestamp := by
  have shown := same.shown
  unfold UsageSnapshot.reading? at read also
  generalize left.find? pod = usage at shown read
  generalize right.find? pod = other at shown also
  cases shown with
  | none => cases read
  | some alike =>
      simp only [Option.bind_eq_bind, Option.bind_some,
        Option.bind_eq_some_iff, Option.pure_def, Option.some.injEq]
        at read also
      obtain ⟨_, -, _, -, rfl⟩ := read
      obtain ⟨_, -, _, -, rfl⟩ := also
      exact alike.timestamp

end UsageSnapshot.SameBut

theorem Repository.reading?_refresh_of_ne {repository : Repository α}
    {now : Instant} {source other : Source}
    {outcome : Except String (UsageSnapshot α)} (different : other ≠ source) :
    (repository.refresh now source outcome).1.reading? other resource
        container pod =
      repository.reading? other resource container pod := by
  have kept : (repository.refresh now source outcome).1.snapshot? other =
      repository.snapshot? other := by
    rw [snapshot?_refresh]
    simp only [different, if_false]
    rfl
  rw [reading?, kept, reading?]

/-- Caches that take over what differs in one quantity read the same at all
other places. -/
theorem FetchesDiffer.sameBut {left right : Except String (UsageSnapshot α)}
    (differ : FetchesDiffer pod container resource left right)
    (repository : Repository α) (now : Instant) (source : Source) :
    Repository.SameBut source pod container resource
      (repository.refresh now source left).1
      (repository.refresh now source right).1 := by
  rcases differ.cases with rfl | ⟨left, right, rfl, rfl, same⟩
  · refine ⟨fun _ _ _ _ _ => rfl, fun first second read also => ?_⟩
    rw [read] at also
    rw [Option.some.inj also]
  · constructor
    · intro other asked name owner different
      simp only [Repository.reading?, Repository.snapshot?_refresh]
      cases repository.caches.find? other with
      | none => rfl
      | some cache =>
          by_cases fetched : other = source
          · subst fetched
            simp only [Option.bind_some, if_true]
            exact same.reading? fun equal => different (by rw [equal])
          · simp only [fetched, if_false]
    · intro first second read also
      simp only [Repository.reading?, Repository.snapshot?_refresh]
        at read also
      cases known : repository.caches.find? source with
      | none =>
          rw [known] at read
          cases read
      | some cache =>
          rw [known] at read also
          exact same.times read also

end

end UsageForecast
