import Mathlib.Algebra.Group.Nat.Defs
import Mathlib.Algebra.Ring.Int.Defs
import Mathlib.Data.List.TakeDrop
import UsageForecast.Json.Reader
import UsageForecast.Json.Writer

/-!
# The text of numbers, read back

The digits of a natural number are read as that number.  In structured data
an integer that fits a word of 64 bits is read back as it is, and a decimal
without its trailing zeros.
-/

namespace UsageForecast

theorem spanDigits_append {digits rest : List Char}
    (numeric : ∀ letter ∈ digits, letter.isDigit = true)
    (stops : rest.head?.any Char.isDigit = false) :
    spanDigits (digits ++ rest) = (digits, rest) := by
  rw [spanDigits, List.span_eq_takeWhile_dropWhile,
    List.takeWhile_append_of_pos numeric,
    List.dropWhile_append_of_pos numeric]
  cases rest with
  | nil => simp
  | cons letter rest =>
      have other : letter.isDigit = false := stops
      simp [other]

namespace Decimal

theorem readDigits_eq (start : Nat) (digits : List Char) :
    readDigits start digits = Nat.ofDigitChars 10 digits start := by
  rw [Nat.ofDigitChars_eq_foldl]
  simp only [readDigits, Nat.mul_comm]

theorem readDigits_append (start : Nat) (first second : List Char) :
    readDigits start (first ++ second) =
      readDigits (readDigits start first) second :=
  List.foldl_append

theorem readDigits_zeros (start count : Nat) :
    readDigits start (List.replicate count '0') = start * 10 ^ count := by
  rw [readDigits_eq, Nat.ofDigitChars_replicate_zero, Nat.mul_comm]

theorem readDigits_digitChars (value : Nat) :
    readDigits 0 (digitChars value) = value := by
  rw [readDigits_eq]
  exact Nat.ofDigitChars_toDigits (by decide) (by decide)

theorem isDigit_of_mem_digitChars {value : Nat} {letter : Char}
    (member : letter ∈ digitChars value) : letter.isDigit = true :=
  Nat.isDigit_of_mem_toDigits (by decide) (by decide) member

theorem length_digitChars_pos (value : Nat) :
    0 < (digitChars value).length :=
  Nat.length_toDigits_pos

/-- A positive number does not begin with a zero. -/
theorem digitChars_eq_cons {value : Nat} (positive : 0 < value) :
    ∃ letter rest, digitChars value = letter :: rest ∧ letter ≠ '0' := by
  induction value using Nat.strongRecOn with
  | ind value induction =>
      rw [digitChars, Nat.toDigits_eq_if (by decide)]
      split
      next single =>
        have nonzero : ∀ digit < 10, 0 < digit →
            Nat.digitChar digit ≠ '0' := by decide
        exact ⟨_, [], rfl, nonzero value single positive⟩
      next several =>
        obtain ⟨letter, rest, shorter, nonzero⟩ :=
          induction (value / 10) (by omega) (by omega)
        rw [digitChars] at shorter
        exact ⟨letter, rest ++ _, by rw [shorter, List.cons_append], nonzero⟩

theorem stripZeros_mul_pow {digits : Nat} (stripped : digits % 10 ≠ 0)
    (count : Nat) (exponent : Int) :
    stripZeros (digits * 10 ^ count) exponent =
      (digits, exponent + count) := by
  induction count generalizing exponent with
  | zero => simp [stripZeros, stripped]
  | succ count induction =>
      have positive : 0 < digits * 10 ^ count :=
        Nat.mul_pos (by omega) (Nat.pow_pos (by decide))
      have whole : digits * 10 ^ (count + 1) =
          digits * 10 ^ count * 10 := by
        rw [Nat.pow_succ, Nat.mul_assoc]
      rw [stripZeros, whole, dif_pos (by omega),
        Nat.mul_div_cancel _ (by decide), induction]
      congr 1
      omega

theorem stripZeros_stripped {digits : Nat} (positive : digits ≠ 0)
    (exponent : Int) : (stripZeros digits exponent).1 % 10 ≠ 0 := by
  fun_induction stripZeros digits exponent with
  | case1 digits exponent whole induction => exact induction (by omega)
  | case2 digits exponent stripped => omega

theorem reduce_mul_pow (negative : Bool) {digits : Nat}
    (stripped : digits % 10 ≠ 0) (count : Nat) (exponent : Int) :
    reduce ⟨negative, digits * 10 ^ count, exponent⟩ =
      ⟨negative, digits, exponent + count⟩ := by
  have positive : digits * 10 ^ count ≠ 0 :=
    Nat.mul_ne_zero (by omega) (Nat.ne_of_gt (Nat.pow_pos (by decide)))
  simp only [reduce, positive, if_false, stripZeros_mul_pow stripped]

/-- Without trailing zeros: zero has exponent zero. -/
def Reduced (value : Decimal) : Prop :=
  value.digits = 0 ∧ value.exponent = 0 ∨ value.digits % 10 ≠ 0

instance (value : Decimal) : Decidable value.Reduced :=
  inferInstanceAs (Decidable (_ ∨ _))

theorem reduced_reduce (value : Decimal) : value.reduce.Reduced := by
  unfold reduce
  split
  · exact .inl ⟨rfl, rfl⟩
  next positive => exact .inr (stripZeros_stripped positive _)

theorem reduce_of_reduced {value : Decimal} (reduced : value.Reduced) :
    value.reduce = value := by
  obtain ⟨negative, digits, exponent⟩ := value
  rcases reduced with ⟨rfl, rfl⟩ | stripped
  · rfl
  · simpa using reduce_mul_pow negative stripped 0 exponent

end Decimal

namespace Json

theorem readFraction?_of_other {text : List Char}
    (other : text.head? ≠ some '.') :
    readFraction? text = some (none, text) := by
  unfold readFraction?
  split
  · exact absurd rfl other
  · rfl

theorem readFraction?_point {digits rest : List Char}
    (numeric : ∀ letter ∈ digits, letter.isDigit = true)
    (nonempty : digits ≠ [])
    (stops : rest.head?.any Char.isDigit = false) :
    readFraction? ('.' :: (digits ++ rest)) = some (some digits, rest) := by
  simp [readFraction?, spanDigits_append numeric stops, nonempty]

/-- The letters after which a number goes on. -/
def continuesNumber (letter : Char) : Bool :=
  letter.isDigit || letter == '.' || letter == 'e' || letter == 'E'

theorem readExponent?_of_other {text : List Char}
    (other : text.head?.any continuesNumber = false) :
    readExponent? text = some (none, text) := by
  unfold readExponent?
  split
  · rfl
  next mark rest =>
    have plain : continuesNumber mark = false := other
    simp only [continuesNumber, Bool.or_eq_false_iff] at plain
    simp [plain.2, plain.1.2]

theorem readExponent?_mark (negative : Bool) (magnitude : Nat)
    {rest : List Char} (stops : rest.head?.any Char.isDigit = false) :
    readExponent? (['e', if negative then '-' else '+']
        ++ Decimal.digitChars magnitude ++ rest) =
      some (some (if negative then -(magnitude : Int) else magnitude),
        rest) := by
  have digits : spanDigits (Decimal.digitChars magnitude ++ rest) =
      (Decimal.digitChars magnitude, rest) :=
    spanDigits_append (fun _ => Decimal.isDigit_of_mem_digitChars) stops
  have nonempty : Decimal.digitChars magnitude ≠ [] :=
    List.ne_nil_of_length_pos (Decimal.length_digitChars_pos _)
  cases negative <;>
    simp [readExponent?, splitSign, digits, nonempty,
      Decimal.readDigits_digitChars]

theorem point_stops (rest : List Char) :
    ('.' :: rest).head?.any Char.isDigit = false := rfl

theorem readNumber_of_parts (negative : Bool)
    {whole tail middle rest : List Char} {fraction? : Option (List Char)}
    {scale? : Option Int}
    (numeric : ∀ letter ∈ whole, letter.isDigit = true)
    (nonempty : whole ≠ [])
    (plain : whole.head? = some '0' → whole.length = 1)
    (stops : tail.head?.any Char.isDigit = false)
    (fraction : readFraction? tail = some (fraction?, middle))
    (scale : readExponent? middle = some (scale?, rest)) :
    readNumber ((if negative then ['-'] else []) ++ whole ++ tail) =
      match fraction?, scale? with
      | none, none =>
          some (integerNumber negative (Decimal.readDigits 0 whole), rest)
      | _, _ => some (.decimal (Decimal.ofParts negative whole
          (fraction?.getD []) (scale?.getD 0)).reduce, rest) := by
  obtain ⟨letter, others, rfl⟩ := List.exists_cons_of_ne_nil nonempty
  have digit : letter.isDigit = true := numeric letter List.mem_cons_self
  have unsigned : letter ≠ '-' := by
    rintro rfl
    cases digit
  have spanned := spanDigits_append numeric stops
  rw [List.cons_append] at spanned
  have leading : (letter = '0' → others = []) := by
    rintro rfl
    simpa using plain rfl
  cases negative <;>
    cases fraction? <;> cases scale? <;>
      simp [readNumber, unsigned, spanned, fraction, scale] <;>
      exact leading

/-- The integers of 64 bits, signed or not. -/
def Number.Fits (value : Int) : Prop :=
  -(2 ^ 63 : Int) ≤ value ∧ value < 2 ^ 64

theorem integerNumber_of_fits {value : Int} (fits : Number.Fits value) :
    integerNumber (decide (value < 0)) value.natAbs = .integer value := by
  obtain ⟨low, high⟩ := fits
  unfold integerNumber
  by_cases negative : value < 0
  · have small : 0 < value.natAbs ∧ value.natAbs ≤ Nat.pow 2 63 := by
      have power : Nat.pow 2 63 = 9223372036854775808 := rfl
      omega
    have same : -(value.natAbs : Int) = value := by omega
    rw [decide_eq_true negative, if_pos rfl, if_pos small, same]
  · have small : value.natAbs < UInt64.size := by
      have power : UInt64.size = 18446744073709551616 := rfl
      omega
    have same : (value.natAbs : Int) = value := by omega
    rw [decide_eq_false negative, if_neg Bool.false_ne_true, if_pos small,
      same]

theorem digitChars_plain (value : Nat) :
    (Decimal.digitChars value).head? = some '0' →
      (Decimal.digitChars value).length = 1 := by
  intro leading
  cases value with
  | zero => rfl
  | succ value =>
      obtain ⟨letter, tail, shape, nonzero⟩ :=
        Decimal.digitChars_eq_cons (Nat.succ_pos value)
      rw [shape] at leading
      exact absurd (Option.some.inj leading) nonzero

theorem digitFree_of_plain {rest : List Char}
    (ends : rest.head?.any continuesNumber = false) :
    rest.head?.any Char.isDigit = false ∧ rest.head? ≠ some '.' := by
  cases rest with
  | nil => simp
  | cons letter rest =>
      have plain : continuesNumber letter = false := ends
      simp only [continuesNumber, Bool.or_eq_false_iff] at plain
      simpa using plain.1.1

theorem readNumber_writeInteger {value : Int} (fits : Number.Fits value)
    {rest : List Char} (ends : rest.head?.any continuesNumber = false) :
    readNumber (writeInteger value ++ rest) =
      some (.integer value, rest) := by
  obtain ⟨stops, pointless⟩ := digitFree_of_plain ends
  have read := readNumber_of_parts (decide (value < 0))
    (fun _ => Decimal.isDigit_of_mem_digitChars)
    (List.ne_nil_of_length_pos (Decimal.length_digitChars_pos _))
    (digitChars_plain value.natAbs) stops
    (readFraction?_of_other pointless) (readExponent?_of_other ends)
  simpa [writeInteger, Decimal.readDigits_digitChars,
    integerNumber_of_fits fits] using read

section

variable {negative : Bool} {digits : Nat} {exponent : Int}
  {rest : List Char}

theorem readDigits_padded (count : Nat) :
    Decimal.readDigits (Decimal.readDigits 0 ['0'])
        (List.replicate count '0' ++ Decimal.digitChars digits) = digits := by
  rw [Decimal.readDigits_append, Decimal.readDigits_zeros]
  simpa [Decimal.readDigits] using Decimal.readDigits_digitChars digits

/-- A decimal below one. -/
private theorem readNumber_fraction
    (reduced : (⟨negative, digits, exponent⟩ : Decimal).Reduced)
    {count : Nat} (position : exponent = -(count +
      (Decimal.digitChars digits).length : Nat))
    (ends : rest.head?.any continuesNumber = false) :
    readNumber ((if negative then ['-'] else [])
        ++ (['0', '.'] ++ List.replicate count '0'
          ++ Decimal.digitChars digits) ++ rest) =
      some (.decimal ⟨negative, digits, exponent⟩, rest) := by
  obtain ⟨stops, -⟩ := digitFree_of_plain ends
  have numeric : ∀ letter ∈ List.replicate count '0' ++
      Decimal.digitChars digits, letter.isDigit = true := by
    intro letter member
    rcases List.mem_append.1 member with zero | digit
    · rw [List.eq_of_mem_replicate zero]
      rfl
    · exact Decimal.isDigit_of_mem_digitChars digit
  have nonempty : List.replicate count '0' ++
      Decimal.digitChars digits ≠ [] := by
    have positive := Decimal.length_digitChars_pos digits
    apply List.ne_nil_of_length_pos
    rw [List.length_append]
    omega
  have zero : ∀ letter ∈ ['0'], letter.isDigit = true := by simp
  have read := readNumber_of_parts negative zero (by decide)
    (fun _ => rfl) (point_stops _)
    (readFraction?_point numeric nonempty stops)
    (readExponent?_of_other ends)
  have value : Decimal.ofParts negative ['0']
      (List.replicate count '0' ++ Decimal.digitChars digits) 0 =
        ⟨negative, digits, exponent⟩ := by
    rw [Decimal.ofParts, readDigits_padded, position]
    simp
  simpa [value, Decimal.reduce_of_reduced reduced] using read

/-- A whole decimal. -/
private theorem readNumber_whole
    (reduced : (⟨negative, digits, exponent⟩ : Decimal).Reduced)
    {count : Nat} (position : exponent = count)
    (ends : rest.head?.any continuesNumber = false) :
    readNumber ((if negative then ['-'] else [])
        ++ (Decimal.digitChars digits ++ List.replicate count '0'
          ++ ['.', '0']) ++ rest) =
      some (.decimal ⟨negative, digits, exponent⟩, rest) := by
  obtain ⟨stops, -⟩ := digitFree_of_plain ends
  have numeric : ∀ letter ∈ Decimal.digitChars digits ++
      List.replicate count '0', letter.isDigit = true := by
    intro letter member
    rcases List.mem_append.1 member with digit | zero
    · exact Decimal.isDigit_of_mem_digitChars digit
    · rw [List.eq_of_mem_replicate zero]
      rfl
  have nonempty : Decimal.digitChars digits ++
      List.replicate count '0' ≠ [] := by
    have positive := Decimal.length_digitChars_pos digits
    apply List.ne_nil_of_length_pos
    rw [List.length_append]
    omega
  have plain : (Decimal.digitChars digits ++
      List.replicate count '0').head? = some '0' →
        (Decimal.digitChars digits ++
          List.replicate count '0').length = 1 := by
    intro leading
    rcases reduced with ⟨zero, unscaled⟩ | stripped
    · have none : count = 0 := by
        simp only at unscaled
        omega
      simp only at zero
      rw [none, zero]
      rfl
    · have positive : 0 < digits := by
        simp only at stripped
        omega
      obtain ⟨letter, tail, shape, nonzero⟩ :=
        Decimal.digitChars_eq_cons positive
      rw [shape] at leading
      exact absurd (Option.some.inj leading) nonzero
  have zero : ∀ letter ∈ ['0'], letter.isDigit = true := by simp
  have read := readNumber_of_parts negative numeric nonempty plain
    (point_stops _) (readFraction?_point zero (by decide) stops)
    (readExponent?_of_other ends)
  have value : (Decimal.ofParts negative (Decimal.digitChars digits ++
      List.replicate count '0') ['0'] 0).reduce =
        ⟨negative, digits, exponent⟩ := by
    have shifted : Decimal.ofParts negative (Decimal.digitChars digits ++
        List.replicate count '0') ['0'] 0 =
          ⟨negative, digits * 10 ^ (count + 1), -1⟩ := by
      rw [Decimal.ofParts, Decimal.readDigits_append,
        Decimal.readDigits_digitChars, Decimal.readDigits_zeros,
        Nat.pow_succ, ← Nat.mul_assoc]
      rfl
    rw [shifted]
    rcases reduced with ⟨zero, unscaled⟩ | stripped
    · simp only at zero unscaled
      simp [zero, unscaled, Decimal.reduce]
    · rw [Decimal.reduce_mul_pow negative stripped, position]
      congr 1
      omega
  simpa [value] using read

theorem readDigits_split (count : Nat) :
    Decimal.readDigits
        (Decimal.readDigits 0 ((Decimal.digitChars digits).take count))
        ((Decimal.digitChars digits).drop count) = digits := by
  rw [← Decimal.readDigits_append, List.take_append_drop,
    Decimal.readDigits_digitChars]

private theorem take_digitChars_plain {count : Nat} (front : 0 < count) :
    ((Decimal.digitChars digits).take count).head? = some '0' →
      ((Decimal.digitChars digits).take count).length = 1 := by
  intro leading
  obtain ⟨count, rfl⟩ := Nat.exists_eq_succ_of_ne_zero (Nat.ne_of_gt front)
  rcases Nat.eq_zero_or_pos digits with rfl | positive
  · change (List.take (count + 1) ['0']).length = 1
    simp
  · obtain ⟨letter, tail, shape, nonzero⟩ :=
      Decimal.digitChars_eq_cons positive
    rw [shape, List.take_succ_cons] at leading
    exact absurd (Option.some.inj leading) nonzero

/-- A decimal with a point between its digits. -/
private theorem readNumber_mixed
    (reduced : (⟨negative, digits, exponent⟩ : Decimal).Reduced)
    {count : Nat} (front : 0 < count)
    (back : count < (Decimal.digitChars digits).length)
    (position : exponent =
      (count : Int) - (Decimal.digitChars digits).length)
    (ends : rest.head?.any continuesNumber = false) :
    readNumber ((if negative then ['-'] else [])
        ++ ((Decimal.digitChars digits).take count ++ ['.']
          ++ (Decimal.digitChars digits).drop count) ++ rest) =
      some (.decimal ⟨negative, digits, exponent⟩, rest) := by
  obtain ⟨stops, -⟩ := digitFree_of_plain ends
  have nonempty : (Decimal.digitChars digits).take count ≠ [] := by
    apply List.ne_nil_of_length_pos
    rw [List.length_take]
    omega
  have fractional : (Decimal.digitChars digits).drop count ≠ [] := by
    apply List.ne_nil_of_length_pos
    rw [List.length_drop]
    omega
  have read := readNumber_of_parts negative
    (fun _ member =>
      Decimal.isDigit_of_mem_digitChars (List.mem_of_mem_take member))
    nonempty (take_digitChars_plain front) (point_stops _)
    (readFraction?_point (fun _ member =>
      Decimal.isDigit_of_mem_digitChars (List.mem_of_mem_drop member))
      fractional stops)
    (readExponent?_of_other ends)
  have value : Decimal.ofParts negative
      ((Decimal.digitChars digits).take count)
      ((Decimal.digitChars digits).drop count) 0 =
        ⟨negative, digits, exponent⟩ := by
    rw [Decimal.ofParts, readDigits_split, List.length_drop, position]
    congr 1
    omega
  simpa [value, Decimal.reduce_of_reduced reduced] using read

/-- A decimal with an exponent. -/
private theorem readNumber_scientific
    (reduced : (⟨negative, digits, exponent⟩ : Decimal).Reduced)
    {leading : Int} (position : leading =
      exponent + (Decimal.digitChars digits).length - 1)
    (ends : rest.head?.any continuesNumber = false) :
    readNumber ((if negative then ['-'] else [])
        ++ Decimal.layScientific Decimal.dataStyle
          (Decimal.digitChars digits) leading ++ rest) =
      some (.decimal ⟨negative, digits, exponent⟩, rest) := by
  obtain ⟨stops, -⟩ := digitFree_of_plain ends
  have positive := Decimal.length_digitChars_pos digits
  have nonempty : (Decimal.digitChars digits).take 1 ≠ [] := by
    apply List.ne_nil_of_length_pos
    rw [List.length_take]
    omega
  have mark : (if leading < 0 then ['e', '-']
      else Decimal.dataStyle.exponentMark) =
        ['e', if leading < 0 then '-' else '+'] := by
    split <;> rfl
  have scale : readExponent? ((if leading < 0 then ['e', '-']
      else Decimal.dataStyle.exponentMark)
        ++ Decimal.digitChars leading.natAbs ++ rest) =
      some (some leading, rest) := by
    have read := readExponent?_mark (decide (leading < 0)) leading.natAbs
      stops
    have same : (if leading < 0 then -(leading.natAbs : Int)
        else leading.natAbs) = leading := by
      split <;> omega
    simp only [decide_eq_true_eq, same] at read
    rw [mark]
    exact read
  have value : Decimal.ofParts negative
      ((Decimal.digitChars digits).take 1)
      ((Decimal.digitChars digits).drop 1) leading =
        ⟨negative, digits, exponent⟩ := by
    rw [Decimal.ofParts, readDigits_split, List.length_drop, position]
    congr 1
    omega
  have numeric : ∀ letter ∈ (Decimal.digitChars digits).take 1,
      letter.isDigit = true := fun _ member =>
    Decimal.isDigit_of_mem_digitChars (List.mem_of_mem_take member)
  rw [Decimal.layScientific]
  cases fractional : (Decimal.digitChars digits).drop 1 with
  | nil =>
      rw [fractional] at value
      have read := readNumber_of_parts negative numeric nonempty
        (take_digitChars_plain Nat.one_pos) (by rw [mark]; rfl)
        (readFraction?_of_other (by rw [mark]; simp)) scale
      simpa [value, Decimal.reduce_of_reduced reduced] using read
  | cons letter tail =>
      rw [fractional] at value
      have behind : ∀ digit ∈ letter :: tail, digit.isDigit = true :=
        fun _ member => Decimal.isDigit_of_mem_digitChars
          (List.mem_of_mem_drop (fractional ▸ member))
      have read := readNumber_of_parts negative numeric nonempty
        (take_digitChars_plain Nat.one_pos) (point_stops _)
        (readFraction?_point behind (by simp) (by rw [mark]; rfl)) scale
      simpa [value, Decimal.reduce_of_reduced reduced] using read

end

/-- A decimal is read back without its trailing zeros. -/
theorem readNumber_render (value : Decimal) {rest : List Char}
    (ends : rest.head?.any continuesNumber = false) :
    readNumber (value.render Decimal.dataStyle ++ rest) =
      some (.decimal value.reduce, rest) := by
  have reduced := Decimal.reduced_reduce value
  rw [Decimal.render]
  generalize value.reduce = least at reduced
  obtain ⟨negative, digits, exponent⟩ := least
  dsimp only
  generalize position : exponent + (Decimal.digitChars digits).length - 1 =
    leading
  by_cases positional : Decimal.dataStyle.positional leading = true
  · rw [if_pos positional, Decimal.layPositional]
    by_cases below : leading < 0
    · rw [if_pos below]
      exact readNumber_fraction reduced (by omega) ends
    · rw [if_neg below]
      dsimp only
      by_cases whole :
          (Decimal.digitChars digits).length ≤ leading.toNat + 1
      · rw [if_pos whole]
        exact readNumber_whole reduced (by omega) ends
      · rw [if_neg whole]
        exact readNumber_mixed reduced (by omega) (by omega) (by omega) ends
  · rw [if_neg positional]
    exact readNumber_scientific reduced position.symm ends

end Json

end UsageForecast
