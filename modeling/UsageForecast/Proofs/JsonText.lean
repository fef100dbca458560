import UsageForecast.Proofs.NumberText

/-!
# The text of structured data, read back

Structured data whose decimals have no trailing zeros and whose integers fit
a word of 64 bits is read back from its compact text as it was written.
-/

namespace UsageForecast.Json

theorem readFourHex_append {text rest : List Char} {value : Nat}
    (read : readFourHex text = some (value, [])) :
    readFourHex (text ++ rest) = some (value, rest) := by
  match text with
  | first :: second :: third :: fourth :: tail =>
      simp only [readFourHex, List.cons_append, Option.bind_eq_bind,
        Option.bind_eq_some_iff, Option.pure_def, Option.some.injEq,
        Prod.mk.injEq] at read ⊢
      obtain ⟨a, first, b, second, c, third, d, fourth, rfl, rfl⟩ := read
      exact ⟨a, first, b, second, c, third, d, fourth, rfl, rfl⟩

theorem readFourHex_fourHexDigits {value : Nat} (small : value < 0x20)
    (rest : List Char) :
    readFourHex (fourHexDigits value ++ rest) = some (value, rest) := by
  have control : ∀ code < 0x20,
      readFourHex (fourHexDigits code) = some (code, []) := by decide
  exact readFourHex_append (control value small)

theorem readChars_escapeChar (letter : Char) (fuel : Nat)
    (done rest : List Char) :
    readChars (fuel + 1) done (escapeChar letter ++ rest) =
      readChars fuel (letter :: done) rest := by
  unfold escapeChar
  -- Seven characters have an escape of their own.
  iterate 7
    split
    · simp_all [readChars, readEscape]
  split
  next control =>
    have code := readFourHex_fourHexDigits control rest
    have low : letter.toNat < 0xd800 := by omega
    simp [readChars, readEscape, readCodeEscape, code, low]
  next visible =>
    have plain : readChars (fuel + 1) done (letter :: rest) =
        if letter.toNat < 0x20 then none
        else readChars fuel (letter :: done) rest := by
      simp_all [readChars]
    exact plain.trans (if_neg visible)

theorem readChars_flatMap (text : List Char) {fuel : Nat}
    (enough : text.length < fuel) (done rest : List Char) :
    readChars fuel done (text.flatMap escapeChar ++ '\"' :: rest) =
      some (done.reverse ++ text, rest) := by
  induction text generalizing fuel done with
  | nil =>
      obtain ⟨fuel, rfl⟩ := Nat.exists_eq_succ_of_ne_zero
        (Nat.ne_of_gt enough)
      simp [readChars]
  | cons letter text induction =>
      obtain ⟨fuel, rfl⟩ := Nat.exists_eq_succ_of_ne_zero
        (Nat.ne_of_gt (Nat.zero_lt_of_lt enough))
      rw [List.flatMap_cons, List.append_assoc, Nat.succ_eq_add_one,
        readChars_escapeChar, induction (by simpa using enough)]
      simp

theorem length_le_escaped (text : List Char) :
    text.length ≤ (text.flatMap escapeChar).length := by
  induction text with
  | nil => simp
  | cons letter text induction =>
      have written : 0 < (escapeChar letter).length := by
        unfold escapeChar
        grind
      rw [List.flatMap_cons, List.length_append, List.length_cons]
      omega

theorem readString_write (text : String) (rest : List Char) :
    readString (text.toList.flatMap escapeChar ++ '\"' :: rest) =
      some (text, rest) := by
  have enough : text.toList.length <
      (text.toList.flatMap escapeChar ++ '\"' :: rest).length + 1 := by
    have longer := length_le_escaped text.toList
    rw [List.length_append]
    omega
  rw [readString, readChars_flatMap _ enough]
  simp

mutual

/-- Decimals have no trailing zeros, and integers fit a word of 64 bits. -/
def Canonical : Json → Prop
  | .number (.integer value) => Number.Fits value
  | .number (.decimal value) => value.Reduced
  | .array items => CanonicalItems items
  | .object members => CanonicalMembers members
  | _ => True

def CanonicalItems : List Json → Prop
  | [] => True
  | item :: rest => Canonical item ∧ CanonicalItems rest

def CanonicalMembers : List (String × Json) → Prop
  | [] => True
  | (_, value) :: rest => Canonical value ∧ CanonicalMembers rest

end

theorem readNumber_writeNumber {value : Number}
    (canonical : (Json.number value).Canonical) (rest : List Char)
    (ends : rest.head?.any continuesNumber = false) :
    readNumber (writeNumber value ++ rest) = some (value, rest) := by
  cases value with
  | integer value => exact readNumber_writeInteger canonical ends
  | decimal value =>
      have read := readNumber_render value ends
      rwa [Decimal.reduce_of_reduced canonical] at read

/-- A number begins with a digit or a sign. -/
theorem head_of_readNumber {text rest : List Char} {value : Number}
    (read : readNumber text = some (value, rest)) :
    ∃ letter tail, text = letter :: tail ∧
      (letter = '-' ∨ letter.isDigit = true) := by
  cases text with
  | nil => cases read
  | cons letter tail =>
      refine ⟨letter, tail, rfl, ?_⟩
      by_cases signed : letter = '-'
      · exact .inl signed
      · refine .inr ?_
        by_contra other
        simp [readNumber, signed, spanDigits,
          List.span_eq_takeWhile_dropWhile, other] at read

theorem ne_of_start {letter mark : Char}
    (start : letter = '-' ∨ letter.isDigit = true)
    (plain : mark.isDigit = false) (unsigned : mark ≠ '-') :
    letter ≠ mark := by
  rintro rfl
  rcases start with sign | digit
  · exact unsigned sign
  · rw [plain] at digit
    cases digit

theorem visible_of_start {letter : Char}
    (start : letter = '-' ∨ letter.isDigit = true) :
    isSpace letter = false := by
  have other (mark : Char) (plain : mark.isDigit = false)
      (unsigned : mark ≠ '-') : letter ≠ mark :=
    ne_of_start start plain unsigned
  simp [isSpace, other ' ' rfl (by decide), other '\n' rfl (by decide),
    other '\t' rfl (by decide), other '\r' rfl (by decide)]

theorem skipSpace_cons {letter : Char} {tail : List Char}
    (visible : isSpace letter = false) :
    skipSpace (letter :: tail) = letter :: tail := by
  simp [skipSpace, visible]

theorem readValue_number {text rest : List Char} {value : Number}
    (read : readNumber text = some (value, rest)) (fuel : Nat) :
    readValue (fuel + 1) text = some (.number value, rest) := by
  obtain ⟨letter, tail, rfl, start⟩ := head_of_readNumber read
  unfold readValue
  rw [skipSpace_cons (visible_of_start start)]
  split <;> rename_i same
  iterate 6
    · exact absurd (List.cons.inj same).1 (ne_of_start start rfl (by decide))
  · simp [read]

theorem readValue_string {tail rest : List Char} {text : String}
    (read : readString tail = some (text, rest)) (fuel : Nat) :
    readValue (fuel + 1) ('\"' :: tail) = some (.string text, rest) := by
  have step : readValue (fuel + 1) ('\"' :: tail) =
      (readString tail).bind fun found => some (.string found.1, found.2) :=
    rfl
  rw [step, read, Option.bind_some]

/-- A value begins with a letter that is no blank and closes nothing. -/
theorem head_of_write (value : Json) (canonical : value.Canonical) :
    ∃ letter tail, write value = letter :: tail ∧
      isSpace letter = false ∧ letter ≠ ']' := by
  cases value with
  | null => exact ⟨_, _, rfl, rfl, by decide⟩
  | bool value => cases value <;> exact ⟨_, _, rfl, rfl, by decide⟩
  | string value => exact ⟨_, _, rfl, rfl, by decide⟩
  | array items => exact ⟨_, _, rfl, rfl, by decide⟩
  | object members => exact ⟨_, _, rfl, rfl, by decide⟩
  | number value =>
      have read := readNumber_writeNumber canonical [] rfl
      rw [List.append_nil] at read
      obtain ⟨letter, tail, same, start⟩ := head_of_readNumber read
      exact ⟨letter, tail, same, visible_of_start start,
        ne_of_start start rfl (by decide)⟩

theorem readValue_array {letter : Char} {tail rest : List Char}
    {items : List Json} {fuel : Nat} (visible : isSpace letter = false)
    (opens : letter ≠ ']')
    (read : readItems fuel (letter :: tail) = some (items, rest)) :
    readValue (fuel + 1) ('[' :: letter :: tail) =
      some (.array items, rest) := by
  unfold readValue
  rw [skipSpace_cons rfl]
  simp only
  rw [skipSpace_cons visible]
  split
  next closes => exact absurd (List.cons.inj closes).1 opens
  next => simp [read]

theorem readValue_object {tail rest : List Char}
    {members : List (String × Json)} {fuel : Nat}
    (read : readMembers fuel ('\"' :: tail) = some (members, rest)) :
    readValue (fuel + 1) ('\x7b' :: '\"' :: tail) =
      some (.object members, rest) := by
  simp [readValue, skipSpace, isSpace, read]

theorem head_of_writeItems (item : Json) (items : List Json)
    (canonical : item.Canonical) :
    ∃ letter tail, writeItems (item :: items) = letter :: tail ∧
      isSpace letter = false ∧ letter ≠ ']' := by
  obtain ⟨letter, tail, shape, visible, opens⟩ :=
    head_of_write item canonical
  cases items with
  | nil => exact ⟨letter, tail, shape, visible, opens⟩
  | cons next items =>
      refine ⟨letter, tail ++ [','] ++ writeItems (next :: items), ?_,
        visible, opens⟩
      rw [writeItems, shape, List.cons_append, List.cons_append]

theorem head_of_writeMembers (member : String × Json)
    (members : List (String × Json)) :
    ∃ tail, writeMembers (member :: members) = '\"' :: tail := by
  cases members <;> exact ⟨_, rfl⟩

theorem readItems_last {text rest : List Char} {item : Json} {fuel : Nat}
    (read : readValue fuel text = some (item, ']' :: rest)) :
    readItems (fuel + 1) text = some ([item], rest) := by
  simp [readItems, read, skipSpace, isSpace]

theorem readItems_next {text later rest : List Char} {item : Json}
    {items : List Json} {fuel : Nat}
    (read : readValue fuel text = some (item, ',' :: later))
    (others : readItems fuel later = some (items, rest)) :
    readItems (fuel + 1) text = some (item :: items, rest) := by
  simp [readItems, read, others, skipSpace, isSpace]

theorem readMembers_last (name : String) {text rest : List Char}
    {value : Json} {fuel : Nat}
    (read : readValue fuel text = some (value, '\x7d' :: rest)) :
    readMembers (fuel + 1) (writeString name ++ ':' :: text) =
      some ([(name, value)], rest) := by
  simp [readMembers, writeString, readString_write, read, skipSpace,
    isSpace]

theorem readMembers_next (name : String) {text later rest : List Char}
    {value : Json} {members : List (String × Json)} {fuel : Nat}
    (read : readValue fuel text = some (value, ',' :: later))
    (others : readMembers fuel later = some (members, rest)) :
    readMembers (fuel + 1) (writeString name ++ ':' :: text) =
      some ((name, value) :: members, rest) := by
  simp [readMembers, writeString, readString_write, read, others, skipSpace,
    isSpace]

mutual

/-- A value is read back up to its end. -/
theorem readValue_write (value : Json) (canonical : value.Canonical)
    (fuel : Nat) (enough : (write value).length ≤ fuel)
    (rest : List Char) (ends : rest.head?.any continuesNumber = false) :
    readValue (fuel + 1) (write value ++ rest) = some (value, rest) := by
  match value with
  | .null => rfl
  | .bool true => rfl
  | .bool false => rfl
  | .number value =>
      exact readValue_number (readNumber_writeNumber canonical rest ends) fuel
  | .string text =>
      simpa [write, writeString] using
        readValue_string (readString_write text rest) fuel
  | .array [] => rfl
  | .array (item :: items) =>
      obtain ⟨letter, tail, shape, visible, opens⟩ :=
        head_of_writeItems item items canonical.1
      have inner := readItems_write item items canonical fuel (by
        simp only [write, List.length_append, List.length_cons,
          List.length_nil] at enough
        omega) rest
      rw [shape, List.cons_append] at inner
      have read := readValue_array visible opens inner
      simpa [write, shape] using read
  | .object [] => rfl
  | .object ((name, value) :: members) =>
      have inner := readMembers_write name value members canonical fuel
        (by
          simp only [write, List.length_append, List.length_cons,
            List.length_nil] at enough
          omega) rest
      obtain ⟨tail, shape⟩ := head_of_writeMembers (name, value) members
      rw [shape, List.cons_append] at inner
      have read := readValue_object inner
      simpa [write, shape] using read
termination_by sizeOf value

theorem readItems_write (item : Json) (items : List Json)
    (canonical : CanonicalItems (item :: items)) (fuel : Nat)
    (enough : (writeItems (item :: items)).length + 2 ≤ fuel)
    (rest : List Char) :
    readItems fuel (writeItems (item :: items) ++ ']' :: rest) =
      some (item :: items, rest) := by
  match items with
  | [] =>
      obtain ⟨fuel, rfl⟩ := Nat.exists_eq_add_of_le'
        (Nat.le_of_add_left_le enough)
      exact readItems_last (readValue_write item canonical.1 fuel
        (by simpa [writeItems] using enough) (']' :: rest) rfl)
  | next :: items =>
      obtain ⟨fuel, rfl⟩ := Nat.exists_eq_add_of_le'
        (Nat.le_of_add_left_le enough)
      simp only [writeItems, List.length_append, List.length_cons,
        List.length_nil] at enough
      have first := readValue_write item canonical.1 fuel (by omega)
        (',' :: (writeItems (next :: items) ++ ']' :: rest)) rfl
      have others := readItems_write next items canonical.2 (fuel + 1)
        (by omega) rest
      simpa [writeItems] using readItems_next first others
termination_by sizeOf (item :: items)

theorem readMembers_write (name : String) (value : Json)
    (members : List (String × Json))
    (canonical : CanonicalMembers ((name, value) :: members)) (fuel : Nat)
    (enough : (writeMembers ((name, value) :: members)).length + 2 ≤ fuel)
    (rest : List Char) :
    readMembers fuel
      (writeMembers ((name, value) :: members) ++ '\x7d' :: rest) =
      some ((name, value) :: members, rest) := by
  match members with
  | [] =>
      obtain ⟨fuel, rfl⟩ := Nat.exists_eq_add_of_le'
        (Nat.le_of_add_left_le enough)
      simp only [writeMembers, List.length_append, List.length_cons,
        List.length_nil] at enough
      have only := readValue_write value canonical.1 fuel (by omega)
        ('\x7d' :: rest) rfl
      simpa [writeMembers] using readMembers_last name only
  | (next, later) :: members =>
      obtain ⟨fuel, rfl⟩ := Nat.exists_eq_add_of_le'
        (Nat.le_of_add_left_le enough)
      simp only [writeMembers, List.length_append, List.length_cons,
        List.length_nil] at enough
      have first := readValue_write value canonical.1 fuel (by omega)
        (',' :: (writeMembers ((next, later) :: members) ++ '\x7d' :: rest))
        rfl
      have others := readMembers_write next later members canonical.2
        (fuel + 1) (by omega) rest
      simpa [writeMembers] using readMembers_next name first others
termination_by sizeOf ((name, value) :: members)

end

theorem read?_write {value : Json} (canonical : value.Canonical) :
    read? value.write = some value := by
  have read := readValue_write value canonical _ (Nat.le_refl _) [] rfl
  rw [List.append_nil] at read
  rw [read?, read]
  rfl

/-- A value is the one that its text holds. -/
theorem ofText?_render {value : Json} (canonical : value.Canonical) :
    ofText? value.render = some value := by
  rw [ofText?, render, String.toList_ofList, read?_write canonical]

/-- Different values have different texts. -/
theorem render_injective {left right : Json} (leftFits : left.Canonical)
    (rightFits : right.Canonical) (same : left.render = right.render) :
    left = right := by
  have read := ofText?_render leftFits
  rw [same, ofText?_render rightFits] at read
  exact (Option.some.inj read).symm

theorem canonicalItems_iff {items : List Json} :
    CanonicalItems items ↔ ∀ item ∈ items, item.Canonical := by
  induction items with
  | nil => simp [CanonicalItems]
  | cons item items induction => simp [CanonicalItems, induction]

theorem canonicalMembers_iff {members : List (String × Json)} :
    CanonicalMembers members ↔ ∀ member ∈ members, member.2.Canonical := by
  induction members with
  | nil => simp [CanonicalMembers]
  | cons member members induction => simp [CanonicalMembers, induction]

end UsageForecast.Json
