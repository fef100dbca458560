import UsageForecast.Proofs.JsonText
import UsageForecast.Proofs.Lookup
import UsageForecast.Json.Record

/-!
# Records, read back

Writers put the fields of a record in the order in which readers take them,
so a reader always finds its field at the head of what is left.
-/

namespace UsageForecast.Json

/-- A value is written within the limits of the text and is read back. -/
structure Faithful {ε : Type} (encode : ε → Json)
    (decode : Json → Option ε) (value : ε) : Prop where
  canonical : (encode value).Canonical
  decoded : decode (encode value) = some value

section Fields

variable {ε δ : Type} {name : String} {value : Json}
  {rest : List (String × Json)} {decode : Json → Option ε}

@[simp] theorem bind_apply (reader : FieldReader ε)
    (next : ε → FieldReader δ) (fields : Fields) :
    (reader >>= next) fields =
      (reader fields).bind fun (result, rest) => next result rest := rfl

@[simp] theorem map_apply (change : ε → δ) (reader : FieldReader ε)
    (fields : Fields) :
    (change <$> reader) fields =
      (reader fields).map fun (result, rest) => (change result, rest) := by
  change (reader fields).bind (fun pair => some (change pair.1, pair.2)) = _
  cases reader fields <;> rfl

@[simp] theorem pure_apply (result : ε) (fields : Fields) :
    (pure result : FieldReader ε) fields = some (result, fields) := rfl

private theorem partition_fresh
    (fresh : ∀ member ∈ rest, member.1 ≠ name) :
    rest.partition (fun member => member.1 == name) = ([], rest) := by
  have others : rest.filter (fun member => member.1 == name) = [] :=
    List.filter_eq_nil_iff.2 fun member listed => by
      simpa using fresh member listed
  have kept : rest.filter (not ∘ fun member => member.1 == name) = rest :=
    List.filter_eq_self.2 fun member listed => by
      simpa using fresh member listed
  rw [List.partition_eq_filter_filter, others, kept]

theorem Fields.take?_head (fresh : ∀ member ∈ rest, member.1 ≠ name) :
    take? name (.named ((name, value) :: rest)) =
      some (some value, .named rest) := by
  have parts := partition_fresh fresh
  rw [List.partition_eq_filter_filter, Prod.mk.injEq] at parts
  simp [take?, List.partition_eq_filter_filter, parts]

theorem Fields.take?_absent (fresh : ∀ member ∈ rest, member.1 ≠ name) :
    take? name (.named rest) = some (none, .named rest) := by
  simp only [take?, partition_fresh fresh]

theorem required_head (fresh : ∀ member ∈ rest, member.1 ≠ name) :
    required name decode (.named ((name, value) :: rest)) =
      (decode value).map fun result => (result, .named rest) := by
  cases decoded : decode value <;>
    simp [required, Fields.take?_head fresh, decoded]

theorem bind_required {result : ε} {next : ε → FieldReader δ}
    (decoded : decode value = some result)
    (fresh : ∀ member ∈ rest, member.1 ≠ name) :
    (required name decode >>= next) (.named ((name, value) :: rest)) =
      next result (.named rest) := by
  rw [bind_apply, required_head fresh, decoded]
  rfl

theorem defaulted_head {absent : ε}
    (fresh : ∀ member ∈ rest, member.1 ≠ name) :
    defaulted name absent decode (.named ((name, value) :: rest)) =
      (decode value).map fun result => (result, .named rest) := by
  cases decoded : decode value <;>
    simp [defaulted, Fields.take?_head fresh, decoded]

theorem optional_head (fresh : ∀ member ∈ rest, member.1 ≠ name) :
    optional name decode (.named ((name, value) :: rest)) =
      (nullable decode value).map fun result => (result, .named rest) :=
  defaulted_head fresh

theorem optional_absent (fresh : ∀ member ∈ rest, member.1 ≠ name) :
    optional name decode (.named rest) = some (none, .named rest) := by
  simp [optional, defaulted, Fields.take?_absent fresh]

theorem nameable_head (fresh : ∀ member ∈ rest, member.1 ≠ name) :
    nameable name decode (.named ((name, value) :: rest)) =
      (nullable decode value).map fun result => (result, .named rest) :=
  optional_head fresh

theorem bind_nameable {result : Option ε}
    {next : Option ε → FieldReader δ}
    (decoded : nullable decode value = some result)
    (fresh : ∀ member ∈ rest, member.1 ≠ name) :
    (nameable name decode >>= next) (.named ((name, value) :: rest)) =
      next result (.named rest) := by
  rw [bind_apply, nameable_head fresh, decoded]
  rfl

theorem record_object {reader : FieldReader ε} {result : ε}
    {members : List (String × Json)}
    (read : reader (.named members) = some (result, .named [])) :
    record reader (.object members) = some result := by
  simp [record, readFields, read, Fields.exhausted]

theorem of_readFields {reader : FieldReader ε} {fields : Fields}
    {result : ε} (read : readFields reader fields = some result) :
    ∃ rest, reader fields = some (result, rest) := by
  obtain ⟨⟨found, rest⟩, taken, same⟩ := Option.bind_eq_some_iff.1 read
  dsimp only at same
  split at same
  · cases same
    exact ⟨rest, taken⟩
  · cases same

theorem of_record_object {reader : FieldReader ε} {result : ε}
    {members : List (String × Json)}
    (read : record reader (.object members) = some result) :
    ∃ rest, reader (.named members) = some (result, rest) :=
  of_readFields read

theorem of_record {reader : FieldReader ε} {value : Json} {result : ε}
    (read : record reader value = some result) :
    ∃ fields rest, reader fields = some (result, rest) := by
  cases value with
  | object members => exact ⟨_, of_readFields read⟩
  | array items => exact ⟨_, of_readFields read⟩
  | null => cases read
  | bool value => cases read
  | number value => cases read
  | string value => cases read

/-- A reader that takes a record has read each of its fields. -/
theorem of_bind {reader : FieldReader ε} {next : ε → FieldReader δ}
    {fields : Fields} {answer : δ × Fields}
    (read : (reader >>= next) fields = some answer) :
    ∃ result rest, reader fields = some (result, rest) ∧
      next result rest = some answer := by
  obtain ⟨⟨result, rest⟩, first, following⟩ :=
    Option.bind_eq_some_iff.1 read
  exact ⟨result, rest, first, following⟩

theorem of_required {fields rest : Fields} {result : ε}
    (read : required name decode fields = some (result, rest)) :
    ∃ value, decode value = some result := by
  obtain ⟨⟨found, left⟩, -, read⟩ := Option.bind_eq_some_iff.1 read
  obtain ⟨value, -, read⟩ := Option.bind_eq_some_iff.1 read
  obtain ⟨decoded, taken, same⟩ := Option.bind_eq_some_iff.1 read
  cases same
  exact ⟨value, taken⟩

theorem of_bind_required {next : ε → FieldReader δ}
    {answer : δ × Fields} (fresh : ∀ member ∈ rest, member.1 ≠ name)
    (read : (required name decode >>= next)
      (.named ((name, value) :: rest)) = some answer) :
    ∃ result, decode value = some result ∧
      next result (.named rest) = some answer := by
  obtain ⟨result, left, taken, following⟩ := of_bind read
  rw [required_head fresh] at taken
  obtain ⟨_, decoded, same⟩ := Option.map_eq_some_iff.1 taken
  cases same
  exact ⟨result, decoded, following⟩

theorem of_bind_nameable {next : Option ε → FieldReader δ}
    {answer : δ × Fields} (fresh : ∀ member ∈ rest, member.1 ≠ name)
    (read : (nameable name decode >>= next)
      (.named ((name, value) :: rest)) = some answer) :
    ∃ result, nullable decode value = some result ∧
      next result (.named rest) = some answer := by
  obtain ⟨result, left, taken, following⟩ := of_bind read
  rw [nameable_head fresh] at taken
  obtain ⟨_, decoded, same⟩ := Option.map_eq_some_iff.1 taken
  cases same
  exact ⟨result, decoded, following⟩

/-- A tagged record is read by the reader that its first member names. -/
theorem tagged_object {tag kind : String}
    {variant? : String → Option (FieldReader ε)} {reader : FieldReader ε}
    {result : ε}
    (shallow : (Json.object ((tag, .string kind) :: rest)).depth ≤ depthLimit)
    (fresh : ∀ member ∈ rest, member.1 ≠ tag)
    (known : variant? kind = some reader)
    (read : reader (.named rest) = some (result, .named [])) :
    tagged tag variant? (.object ((tag, .string kind) :: rest)) =
      some result := by
  simp [tagged, Nat.not_lt.2 shallow, Fields.take?_head fresh, text?, known,
    readFields, read, Fields.exhausted]

end Fields

section Depth

theorem depthOfItems_le {items : List Json} {bound : Nat}
    (each : ∀ item ∈ items, item.depth ≤ bound) :
    depthOfItems items ≤ bound := by
  induction items with
  | nil => exact Nat.zero_le bound
  | cons item items induction =>
      obtain ⟨first, others⟩ := List.forall_mem_cons.1 each
      exact Nat.max_le.2 ⟨first, induction others⟩

theorem depthOfMembers_le {members : List (String × Json)} {bound : Nat}
    (each : ∀ member ∈ members, member.2.depth ≤ bound) :
    depthOfMembers members ≤ bound := by
  induction members with
  | nil => exact Nat.zero_le bound
  | cons member members induction =>
      obtain ⟨first, others⟩ := List.forall_mem_cons.1 each
      exact Nat.max_le.2 ⟨first, induction others⟩

end Depth

section Faithful

variable {ε : Type} {encode : ε → Json} {decode : Json → Option ε}

theorem faithful_text (text : String) : Faithful .string text? text :=
  ⟨trivial, rfl⟩

theorem faithful_word {value : Nat} (small : value < UInt64.size) :
    Faithful ofNat word? value := by
  have low : (0 : Int) ≤ value := Int.natCast_nonneg value
  have high : (value : Int) ≤ (UInt64.size : Nat) - 1 := by omega
  refine ⟨⟨?_, ?_⟩, ?_⟩
  · exact Int.le_trans (by decide) low
  · exact Int.lt_of_le_sub_one high
  · simp only [ofNat, word?, naturalBelow?, integerIn?, low, high, and_self,
      if_true, Option.map_some, Int.toNat_natCast]

theorem word?_lt {value : Json} {word : Nat}
    (read : word? value = some word) : word < UInt64.size := by
  obtain ⟨integer, within, rfl⟩ := Option.map_eq_some_iff.1 read
  unfold integerIn? at within
  split at within
  · split at within
    next bounds =>
      cases within
      omega
    next => cases within
  · cases within

/-- Reading back a list item by item. -/
theorem mapM_map {ε δ : Type} {encode : ε → δ}
    {decode : δ → Option ε} {values : List ε}
    (each : ∀ value ∈ values, decode (encode value) = some value) :
    (values.map encode).mapM decode = some values := by
  induction values with
  | nil => rfl
  | cons value values induction =>
      obtain ⟨first, others⟩ := List.forall_mem_cons.1 each
      rw [List.map_cons, List.mapM_cons, first, induction others]
      rfl

theorem Faithful.list (values : List ε)
    (each : ∀ value ∈ values, Faithful encode decode value) :
    Faithful (fun values => .array (values.map encode)) (listOf decode)
      values where
  canonical := canonicalItems_iff.2 fun item listed => by
    obtain ⟨value, member, rfl⟩ := List.mem_map.1 listed
    exact (each value member).canonical
  decoded := by
    simp [listOf, items?, mapM_map fun value member =>
      (each value member).decoded]

theorem faithful_texts (texts : List String) :
    Faithful ofStrings (listOf text?) texts :=
  Faithful.list texts fun text _ => faithful_text text

theorem Faithful.option {value? : Option ε}
    (each : ∀ value ∈ value?, Faithful encode decode value)
    (present : ∀ value, encode value ≠ .null) :
    Faithful (ofOption encode) (nullable decode) value? := by
  cases value? with
  | none => exact ⟨trivial, rfl⟩
  | some value =>
      obtain ⟨canonical, decoded⟩ := each value rfl
      refine ⟨canonical, ?_⟩
      change nullable decode (encode value) = some (some value)
      unfold nullable
      split
      next absent => exact absurd absent (present value)
      next => rw [decoded]; rfl

theorem Faithful.map {κ : Type} [Ord κ] [Std.TransOrd κ]
    [Std.LawfulEqOrd κ] {name : κ → String} {key? : String → Option κ}
    {map : SortedMap κ ε} (names : ∀ key, key? (name key) = some key)
    (each : ∀ value ∈ map.values, Faithful encode decode value) :
    Faithful (ofMap name encode) (mapOf key? decode) map where
  canonical := canonicalMembers_iff.2 fun member listed => by
    obtain ⟨entry, within, rfl⟩ := List.mem_map.1 listed
    exact (each entry.2 (List.mem_map.2 ⟨entry, within, rfl⟩)).canonical
  decoded := by
    rw [ofMap, mapOf, mapM_map]
    · exact congrArg some (SortedMap.ofList_entries map)
    · intro entry within
      have value := each entry.2 (List.mem_map.2 ⟨entry, within, rfl⟩)
      simp [names, value.decoded]

theorem faithful_variant {name : ε → String} {parse? : String → Option ε}
    (names : ∀ value, parse? (name value) = some value) (value : ε) :
    Faithful (fun value => .string (name value)) (variant parse?) value :=
  ⟨trivial, by simp [variant, variantName?, names]⟩

/-- Reading a list item by item reads all of them and nothing else. -/
private theorem of_mapM {ε δ : Type} {decode : δ → Option ε}
    {values : List δ} {results : List ε}
    (read : values.mapM decode = some results) :
    (∀ value ∈ values, ∃ result, decode value = some result) ∧
      ∀ result ∈ results, ∃ value, decode value = some result := by
  induction values generalizing results with
  | nil =>
      cases read
      exact ⟨nofun, nofun⟩
  | cons value values induction =>
      rw [List.mapM_cons] at read
      obtain ⟨first, decoded, read⟩ := Option.bind_eq_some_iff.1 read
      obtain ⟨others, rest, same⟩ := Option.bind_eq_some_iff.1 read
      cases same
      obtain ⟨all, only⟩ := induction rest
      rw [List.forall_mem_cons, List.forall_mem_cons]
      exact ⟨⟨⟨first, decoded⟩, all⟩, ⟨value, decoded⟩, only⟩

/-- A list that is read has been read item by item. -/
theorem of_listOf {values results : List ε}
    (read : listOf decode (.array (values.map encode)) = some results) :
    ∀ value ∈ values, ∃ result, decode (encode value) = some result := by
  intro value member
  exact (of_mapM read).1 (encode value) (List.mem_map_of_mem member)

theorem of_listOf_mem {value : Json} {results : List ε}
    (read : listOf decode value = some results) :
    ∀ result ∈ results, ∃ item, decode item = some result := by
  obtain ⟨items, -, read⟩ := Option.bind_eq_some_iff.1 read
  exact (of_mapM read).2

/-- A map that is read has been read value by value. -/
theorem of_mapOf {κ : Type} [Ord κ] [Std.TransOrd κ] {name : κ → String}
    {key? : String → Option κ} {map result : SortedMap κ ε}
    (read : mapOf key? decode (ofMap name encode map) = some result) :
    ∀ value ∈ map.values, ∃ result, decode (encode value) = some result := by
  intro value member
  obtain ⟨entry, within, rfl⟩ := List.mem_map.1 member
  obtain ⟨entries, taken, -⟩ := Option.bind_eq_some_iff.1 read
  obtain ⟨pair, decoded⟩ := (of_mapM taken).1
    (name entry.1, encode entry.2) (List.mem_map.2 ⟨entry, within, rfl⟩)
  obtain ⟨key, -, decoded⟩ := Option.bind_eq_some_iff.1 decoded
  obtain ⟨value, decoded, -⟩ := Option.bind_eq_some_iff.1 decoded
  exact ⟨value, decoded⟩

theorem of_mapOf_mem {κ : Type} [Ord κ] [Std.TransOrd κ]
    [Std.LawfulEqOrd κ] {key? : String → Option κ} {value : Json}
    {map : SortedMap κ ε} (read : mapOf key? decode value = some map) :
    ∀ result ∈ map.values, ∃ item, decode item = some result := by
  cases value with
  | object members =>
      obtain ⟨entries, taken, same⟩ := Option.bind_eq_some_iff.1 read
      cases same
      intro result member
      obtain ⟨key, found⟩ := SortedMap.mem_values_iff.1 member
      obtain ⟨pair, decoded⟩ :=
        (of_mapM taken).2 _ (SortedMap.mem_of_find?_ofList found)
      obtain ⟨_, -, decoded⟩ := Option.bind_eq_some_iff.1 decoded
      obtain ⟨_, decoded, same⟩ := Option.bind_eq_some_iff.1 decoded
      cases same
      exact ⟨pair.2, decoded⟩
  | null => cases read
  | bool value => cases read
  | number value => cases read
  | string value => cases read
  | array items => cases read

/-- A value is read back from the text of its structured data. -/
theorem Faithful.ofText?_render {value : ε}
    (faithful : Faithful encode decode value) :
    ofText? (encode value).render >>= decode = some value := by
  rw [Json.ofText?_render faithful.canonical]
  exact faithful.decoded

end Faithful

end UsageForecast.Json
