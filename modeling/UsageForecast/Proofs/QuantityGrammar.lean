import Mathlib
import UsageForecast.Proofs.NumberText
import UsageForecast.Proofs.ScalarSign
import UsageForecast.Usage.Snapshot

/-!
# The grammar of quantities

A quantity is a decimal number without a sign and a suffix.  The reader cuts a
text at its first letter and accepts it exactly if both parts are what they
should be and the value is finite.
-/

namespace UsageForecast

namespace Quantity

/-- Digits with at most one point among them, and at least one digit. -/
structure PlainNumber where
  whole : List Char
  /-- The digits after the point, if there is one. -/
  places? : Option (List Char)
  numeric : ∀ letter ∈ whole ++ places?.getD [], letter.isDigit = true
  nonempty : whole ++ places?.getD [] ≠ []

/-- A sign, if there is one, before the digits of an integer. -/
def signText : Option Bool → List Char
  | none => []
  | some true => ['-']
  | some false => ['+']

/-- The integer that a sign and digits write; the sign tells whether it is a
minus. -/
def signedValue (negative? : Option Bool) (digits : List Char) : Int :=
  if negative?.getD false then -(Decimal.readDigits 0 digits : Int)
  else Decimal.readDigits 0 digits

/-- An exponent mark and an integer that fits a signed 32-bit word. -/
structure Exponent where
  capital : Bool
  negative? : Option Bool
  digits : List Char
  numeric : ∀ letter ∈ digits, letter.isDigit = true
  nonempty : digits ≠ []
  fits : -Int.pow 2 31 ≤ signedValue negative? digits ∧
    signedValue negative? digits < Int.pow 2 31

/-- What may follow the number of a quantity. -/
inductive Suffix where
  | none
  | bytes
  /-- A power of a thousand to divide by. -/
  | fraction (level : Fin 3)
  /-- A power of a thousand to multiply by. -/
  | multiple (level : Fin 4)
  /-- A power of 1024 to multiply by. -/
  | binary (level : Fin 4)
  | scale (exponent : Exponent)

namespace PlainNumber

def places (number : PlainNumber) : List Char := number.places?.getD []

def text (number : PlainNumber) : List Char :=
  number.whole ++
    match number.places? with
    | none => []
    | some places => '.' :: places

def decimal (number : PlainNumber) : Decimal :=
  .ofParts false number.whole number.places 0

end PlainNumber

namespace Exponent

def value (exponent : Exponent) : Int :=
  signedValue exponent.negative? exponent.digits

def text (exponent : Exponent) : List Char :=
  (if exponent.capital then 'E' else 'e') ::
    (signText exponent.negative? ++ exponent.digits)

end Exponent

namespace Suffix

def text : Suffix → List Char
  | .none => []
  | .bytes => ['B']
  | .fraction level => [match level with | 0 => 'm' | 1 => 'u' | 2 => 'n']
  | .multiple level =>
      [match level with | 0 => 'k' | 1 => 'M' | 2 => 'G' | 3 => 'T']
  | .binary level =>
      [match level with | 0 => 'K' | 1 => 'M' | 2 => 'G' | 3 => 'T', 'i']
  | .scale exponent => exponent.text

/-- What a suffix makes of the number before it. -/
def apply {α : Type} [Scalar α] (number : α) : Suffix → α
  | .none => number
  | .bytes => number
  | .fraction level => number / thousands (level + 1 : Nat)
  | .multiple level => number * thousands (level + 1 : Nat)
  | .binary level => timesBinary number (level + 1)
  | .scale exponent =>
      number * Scalar.power (Scalar.scientific 10 0) exponent.value

end Suffix

/-- A text is cut before the first letter that a test does not hold of. -/
theorem span_eq_iff {test : Char → Bool} {text front rest : List Char} :
    text.span test = (front, rest) ↔
      front ++ rest = text ∧ (∀ letter ∈ front, test letter = true) ∧
        rest.head?.any test = false := by
  rw [List.span_eq_takeWhile_dropWhile, Prod.mk.injEq]
  constructor
  · rintro ⟨rfl, rfl⟩
    refine ⟨List.takeWhile_append_dropWhile,
      List.all_eq_true.1 List.all_takeWhile, ?_⟩
    have stops := List.head?_dropWhile_not test text
    cases head : (text.dropWhile test).head? with
    | none => rfl
    | some letter =>
        rw [head] at stops
        exact stops
  · rintro ⟨rfl, holds, stops⟩
    rw [List.takeWhile_append_of_pos holds,
      List.dropWhile_append_of_pos holds]
    cases rest with
    | nil => simp
    | cons letter rest =>
        have other : test letter = false := stops
        simp [other]

section

variable {text whole places rest tail : List Char} {letter : Char}

private theorem splitPoint?_of_end
    (spanned : spanDigits text = (whole, [])) :
    Decimal.splitPoint? text =
      if whole = [] then none else some (whole, [], []) := by
  simp [Decimal.splitPoint?, spanned]

private theorem splitPoint?_of_point
    (spanned : spanDigits text = (whole, '.' :: tail))
    (behind : spanDigits tail = (places, rest)) :
    Decimal.splitPoint? text =
      if whole = [] ∧ places = [] then none
      else some (whole, places, rest) := by
  simp [Decimal.splitPoint?, spanned, behind]

private theorem splitPoint?_of_other (other : letter ≠ '.')
    (spanned : spanDigits text = (whole, letter :: tail)) :
    Decimal.splitPoint? text =
      if whole = [] then none else some (whole, [], letter :: tail) := by
  simp [Decimal.splitPoint?, spanned, other]

end

theorem readNumber?_text (number : PlainNumber) :
    readNumber? number.text = some number.decimal := by
  obtain ⟨whole, places?, numeric, nonempty⟩ := number
  rw [List.forall_mem_append] at numeric
  cases places? with
  | none =>
      have spanned : spanDigits (whole ++ []) = (whole, []) :=
        spanDigits_append numeric.1 rfl
      have digits : whole ≠ [] := by simpa using nonempty
      rw [readNumber?, PlainNumber.text, splitPoint?_of_end spanned,
        if_neg digits]
      rfl
  | some places =>
      have spanned : spanDigits (whole ++ '.' :: places) =
          (whole, '.' :: places) := spanDigits_append numeric.1 rfl
      have behind : spanDigits (places ++ []) = (places, []) :=
        spanDigits_append numeric.2 rfl
      rw [List.append_nil] at behind
      have digits : ¬ (whole = [] ∧ places = []) := by
        simpa using nonempty
      rw [readNumber?, PlainNumber.text,
        splitPoint?_of_point spanned behind, if_neg digits]
      rfl

theorem text_of_readNumber? {text : List Char} {decimal : Decimal}
    (read : readNumber? text = some decimal) :
    ∃ number : PlainNumber, number.text = text ∧
      number.decimal = decimal := by
  obtain ⟨front, back, found, rfl⟩ : ∃ front back,
      Decimal.splitPoint? text = some (front, back, []) ∧
        Decimal.ofParts false front back 0 = decimal := by
    unfold readNumber? at read
    split at read
    next front back found => exact ⟨front, back, found, Option.some.inj read⟩
    next => cases read
  cases spanned : spanDigits text with
  | mk whole rest =>
    obtain ⟨rfl, numeric, -⟩ := span_eq_iff.1 spanned
    match rest with
    | [] =>
        rw [splitPoint?_of_end spanned] at found
        obtain ⟨nonempty, same⟩ :=
          Option.ite_none_left_eq_some.1 found
        cases same
        exact ⟨⟨front, none, by simpa using numeric, by simpa using nonempty⟩,
          rfl, rfl⟩
    | letter :: tail =>
        by_cases point : letter = '.'
        · subst point
          cases behind : spanDigits tail with
          | mk places rest =>
            obtain ⟨rfl, fractional, -⟩ := span_eq_iff.1 behind
            rw [splitPoint?_of_point spanned behind] at found
            obtain ⟨nonempty, same⟩ :=
              Option.ite_none_left_eq_some.1 found
            cases same
            exact ⟨⟨front, some back,
              List.forall_mem_append.2 ⟨numeric, fractional⟩,
              by simpa using nonempty⟩, by simp [PlainNumber.text], rfl⟩
        · rw [splitPoint?_of_other point spanned] at found
          cases (Option.ite_none_left_eq_some.1 found).2

/-- A sign is split off, whether there is one or not. -/
theorem splitSign_eq (text : List Char) :
    ∃ negative? digits, signText negative? ++ digits = text ∧
      splitSign text = (negative?.getD false, digits) := by
  unfold splitSign
  split
  · exact ⟨some true, _, rfl, rfl⟩
  · exact ⟨some false, _, rfl, rfl⟩
  · exact ⟨none, _, rfl, rfl⟩

theorem splitSign_signText {digits : List Char} (negative? : Option Bool)
    (numeric : ∀ letter ∈ digits, letter.isDigit = true) :
    splitSign (signText negative? ++ digits) =
      (negative?.getD false, digits) := by
  match negative? with
  | some true => rfl
  | some false => rfl
  | none =>
      change splitSign digits = _
      unfold splitSign
      split
      · cases numeric '-' List.mem_cons_self
      · cases numeric '+' List.mem_cons_self
      · rfl

theorem parseInteger?_eq_some_iff {text : List Char} {value : Int} :
    parseInteger? text = some value ↔
      ∃ negative? digits, signText negative? ++ digits = text ∧
        digits ≠ [] ∧ (∀ letter ∈ digits, letter.isDigit = true) ∧
        signedValue negative? digits = value := by
  have plain (digits : List Char) :
      (digits.isEmpty || !digits.all Char.isDigit) = false ↔
        digits ≠ [] ∧ ∀ letter ∈ digits, letter.isDigit = true := by
    simp
  unfold parseInteger?
  constructor
  · obtain ⟨negative?, digits, same, split⟩ := splitSign_eq text
    rw [split]
    dsimp only
    intro read
    split at read
    next => cases read
    next well =>
      obtain ⟨nonempty, numeric⟩ := (plain digits).1 (by simpa using well)
      exact ⟨negative?, digits, same, nonempty, numeric,
        Option.some.inj read⟩
  · rintro ⟨negative?, digits, rfl, nonempty, numeric, rfl⟩
    rw [splitSign_signText negative? numeric]
    dsimp only
    rw [(plain digits).2 ⟨nonempty, numeric⟩]
    rfl

theorem readExponent?_text (exponent : Exponent) :
    readExponent? exponent.text = some exponent.value := by
  obtain ⟨capital, negative?, digits, numeric, nonempty, fits⟩ := exponent
  have parsed : parseInteger? (signText negative? ++ digits) =
      some (signedValue negative? digits) :=
    parseInteger?_eq_some_iff.2
      ⟨negative?, digits, rfl, nonempty, numeric, rfl⟩
  cases capital <;>
    simp only [Exponent.text, readExponent?, parsed, if_pos fits] <;> rfl

theorem text_of_readExponent? {text : List Char} {value : Int}
    (read : readExponent? text = some value) :
    ∃ exponent : Exponent, exponent.text = text ∧
      exponent.value = value := by
  unfold readExponent? at read
  split at read
  next mark digits =>
    split at read
    next marked =>
      split at read
      next integer parsed =>
        split at read
        next fits =>
          obtain ⟨negative?, digits, rfl, nonempty, numeric, rfl⟩ :=
            parseInteger?_eq_some_iff.1 parsed
          obtain rfl := Option.some.inj read
          refine ⟨⟨mark == 'E', negative?, digits, numeric, nonempty, fits⟩,
            ?_, rfl⟩
          rcases (by simpa using marked : mark = 'e' ∨ mark = 'E') with
            rfl | rfl <;> rfl
        next => cases read
      next => cases read
    next => cases read
  next => cases read

theorem applySuffix?_eq_some_iff {α : Type} [Scalar α] {number value : α}
    {text : List Char} :
    applySuffix? number text = some value ↔
      ∃ suffix : Suffix, suffix.text = text ∧
        suffix.apply number = value := by
  constructor
  · unfold applySuffix?
    intro applied
    split at applied
    · exact ⟨.none, rfl, Option.some.inj applied⟩
    · exact ⟨.bytes, rfl, Option.some.inj applied⟩
    · exact ⟨.fraction 2, rfl, Option.some.inj applied⟩
    · exact ⟨.fraction 1, rfl, Option.some.inj applied⟩
    · exact ⟨.fraction 0, rfl, Option.some.inj applied⟩
    · exact ⟨.multiple 0, rfl, Option.some.inj applied⟩
    · exact ⟨.multiple 1, rfl, Option.some.inj applied⟩
    · exact ⟨.multiple 2, rfl, Option.some.inj applied⟩
    · exact ⟨.multiple 3, rfl, Option.some.inj applied⟩
    · exact ⟨.binary 0, rfl, Option.some.inj applied⟩
    · exact ⟨.binary 1, rfl, Option.some.inj applied⟩
    · exact ⟨.binary 2, rfl, Option.some.inj applied⟩
    · exact ⟨.binary 3, rfl, Option.some.inj applied⟩
    · obtain ⟨power, read, rfl⟩ := Option.map_eq_some_iff.1 applied
      obtain ⟨exponent, rfl, rfl⟩ := text_of_readExponent? read
      exact ⟨.scale exponent, rfl, rfl⟩
  · rintro ⟨suffix, rfl, rfl⟩
    cases suffix with
    | none => rfl
    | bytes => rfl
    | fraction level => match level with | 0 | 1 | 2 => rfl
    | multiple level => match level with | 0 | 1 | 2 | 3 => rfl
    | binary level => match level with | 0 | 1 | 2 | 3 => rfl
    | scale exponent =>
        obtain ⟨mark, digits, shape, other⟩ :
            ∃ mark digits, exponent.text = mark :: digits ∧
              (mark = 'e' ∨ mark = 'E') :=
          ⟨_, _, rfl, by cases exponent.capital <;> simp⟩
        have read := readExponent?_text exponent
        change applySuffix? number exponent.text = _
        rw [shape] at read ⊢
        rcases other with rfl | rfl <;>
          simp [applySuffix?, read, Suffix.apply]

theorem isLetter_of_head? {suffix : Suffix} {letter : Char}
    (head : suffix.text.head? = some letter) : isLetter letter = true := by
  cases suffix with
  | none => cases head
  | bytes =>
      cases head
      rfl
  | fraction level => match level with | 0 | 1 | 2 => cases head; rfl
  | multiple level => match level with | 0 | 1 | 2 | 3 => cases head; rfl
  | binary level => match level with | 0 | 1 | 2 | 3 => cases head; rfl
  | scale exponent =>
      cases head
      cases exponent.capital <;> rfl

theorem of_mem_text {number : PlainNumber} {letter : Char}
    (member : letter ∈ number.text) :
    letter.isDigit = true ∨ letter = '.' := by
  obtain ⟨whole, places?, numeric, nonempty⟩ := number
  rcases List.mem_append.1 member with front | back
  · exact .inl (numeric letter (List.mem_append_left _ front))
  · cases places? with
    | none => cases back
    | some places =>
        rcases List.mem_cons.1 back with rfl | back
        · exact .inr rfl
        · exact .inl (numeric letter (List.mem_append_right _ back))

theorem text_ne_nil (number : PlainNumber) : number.text ≠ [] := by
  obtain ⟨whole, places?, numeric, nonempty⟩ := number
  cases places? with
  | none => simpa [PlainNumber.text] using nonempty
  | some places => simp [PlainNumber.text]

theorem isPlainNumber_text (number : PlainNumber) :
    isPlainNumber number.text = true := by
  simp only [isPlainNumber, Bool.and_eq_true, Bool.not_eq_true',
    List.isEmpty_eq_false_iff, List.all_eq_true, Bool.or_eq_true,
    beq_iff_eq]
  exact ⟨text_ne_nil number, fun _ => of_mem_text⟩

theorem isLetter_of_isDigit {letter : Char}
    (digit : letter.isDigit = true) : isLetter letter = false := by
  have below : letter.val.toNat ≤ 57 := by
    simp only [Char.isDigit, Bool.and_eq_true, decide_eq_true_eq] at digit
    exact digit.2
  have short {least : UInt32} (above : 57 < least.toNat) :
      ¬ least ≤ letter.val := fun reached =>
    absurd (UInt32.le_iff_toNat_le.1 reached) (by omega)
  have upper : ¬ (65 : UInt32) ≤ letter.val := short (by decide)
  have lower : ¬ (97 : UInt32) ≤ letter.val := short (by decide)
  simp [isLetter, Char.isAlpha, Char.isUpper, Char.isLower, upper, lower]

/-- The cut comes between the number and the suffix. -/
theorem cut_text (number : PlainNumber) (suffix : Suffix) :
    cut (number.text ++ suffix.text) = (number.text, suffix.text) := by
  refine span_eq_iff.2 ⟨rfl, fun letter member => ?_, ?_⟩
  · have other : isLetter letter = false := by
      rcases of_mem_text member with digit | rfl
      · exact isLetter_of_isDigit digit
      · rfl
    rw [other]
    rfl
  · cases head : suffix.text.head? with
    | none => rfl
    | some letter =>
        simpa using isLetter_of_head? head

section

variable {α : Type} [Scalar α]

theorem parse_eq_ok_iff {text : String} {resource : Resource} {value : α} :
    parse text resource = .ok value ↔
      ∃ (number : PlainNumber) (suffix : Suffix),
        Text.trim text.toList = number.text ++ suffix.text ∧
          suffix.apply (Scalar.ofDecimal number.decimal) = value ∧
          Scalar.isFinite value = true := by
  constructor
  · intro accepted
    unfold parse at accepted
    cases cutAt : cut (Text.trim text.toList) with
    | mk front back =>
      obtain ⟨same, -, -⟩ := span_eq_iff.1 cutAt
      rw [cutAt] at accepted
      dsimp only at accepted
      split at accepted
      next =>
        split at accepted
        next => cases accepted
        next decimal read =>
          split at accepted
          next => cases accepted
          next product applied =>
            split at accepted
            next finite =>
              obtain rfl := Except.ok.inj accepted
              obtain ⟨number, rfl, rfl⟩ := text_of_readNumber? read
              obtain ⟨suffix, rfl, rfl⟩ :=
                applySuffix?_eq_some_iff.1 applied
              exact ⟨number, suffix, same.symm, rfl, finite⟩
            next => cases accepted
      next => cases accepted
  · rintro ⟨number, suffix, shape, rfl, finite⟩
    have applied : applySuffix? (Scalar.ofDecimal number.decimal : α)
        suffix.text = some (suffix.apply (Scalar.ofDecimal number.decimal)) :=
      applySuffix?_eq_some_iff.2 ⟨suffix, rfl, rfl⟩
    rw [parse, shape, cut_text]
    simp only [isPlainNumber_text, readNumber?_text, applied, finite,
      if_true]

section

variable [SignedScalar α]

open SignedScalar

theorem unsigned_timesBinary {number : α} (unsigned : Unsigned number)
    (count : Nat) : Unsigned (timesBinary number count) := by
  induction count with
  | zero => exact unsigned
  | succ count induction =>
      exact unsigned_mul induction (Scalar.unsigned_scientific 1024 0)

theorem Suffix.unsigned_apply {number : α} (unsigned : Unsigned number)
    (suffix : Suffix) : Unsigned (suffix.apply number) := by
  cases suffix with
  | none => exact unsigned
  | bytes => exact unsigned
  | fraction level =>
      exact unsigned_div unsigned (Scalar.unsigned_scientific 1 _)
  | multiple level =>
      exact unsigned_mul unsigned (Scalar.unsigned_scientific 1 _)
  | binary level => exact unsigned_timesBinary unsigned _
  | scale exponent =>
      exact unsigned_mul unsigned
        (Scalar.unsigned_power (Scalar.unsigned_scientific 10 0) _)

theorem nonneg_of_parse {text : String} {resource : Resource} {value : α}
    (accepted : parse text resource = .ok value) : 0 ≤ value := by
  obtain ⟨number, suffix, -, rfl, finite⟩ := parse_eq_ok_iff.1 accepted
  exact nonneg_of_unsigned finite
    (suffix.unsigned_apply (unsigned_ofDecimal rfl))

end

theorem nonneg_of_check {value checked : α} {resource : Resource}
    (accepted : check value resource = .ok checked) : 0 ≤ checked := by
  unfold check at accepted
  split at accepted
  next admitted =>
    obtain rfl := Except.ok.inj accepted
    simpa using (Bool.and_eq_true_iff.1 admitted).2
  next => cases accepted

end

end Quantity

namespace Measurement

variable {α : Type} [Scalar α] {resource : Resource} {value : α}

theorem read_text_eq_ok_iff {text : String} :
    (Measurement.text text).read resource = .ok value ↔
      Quantity.parse text resource = .ok value := by
  rw [read]
  cases (Quantity.parse text resource : Except Quantity.Fault α) <;>
    simp [Except.mapError]

/-- A text that is not accepted is quoted in the failure. -/
theorem read_text_cases (text : String) (resource : Resource) :
    (∃ value : α, (Measurement.text text).read resource = .ok value) ∨
      ∃ fault : Quantity.Fault,
        (Measurement.text text : Measurement α).read resource =
          .error (.unreadable text fault.message) := by
  rw [read]
  cases (Quantity.parse text resource : Except Quantity.Fault α) with
  | ok value => exact .inl ⟨value, rfl⟩
  | error fault => exact .inr ⟨fault, rfl⟩

theorem nonneg_of_read [SignedScalar α] {measurement : Measurement α}
    (accepted : measurement.read resource = .ok value) : 0 ≤ value := by
  cases measurement with
  | text quantity =>
      exact Quantity.nonneg_of_parse (read_text_eq_ok_iff.1 accepted)
  | value amount =>
      rw [read] at accepted
      cases checked : Quantity.check amount resource with
      | error fault =>
          rw [checked] at accepted
          cases accepted
      | ok admitted =>
          rw [checked] at accepted
          obtain rfl := Except.ok.inj accepted
          exact Quantity.nonneg_of_check checked

end Measurement

end UsageForecast
