import UsageForecast.Proofs.QuantityValue
import UsageForecast.Quantity.Rendering

/-!
# Quantities written and read again

A quantity is written in whole units of its notation: the unit of processor
time and of plain numbers is a thousandth, that of memory a byte.  What is
read again is the nearest number of units, as long as that fits the word in
which it is counted.
-/

namespace UsageForecast

theorem Text.isBlank_of_isDigit {letter : Char}
    (digit : letter.isDigit = true) : isBlank letter = false := by
  have bounds : 48 ≤ letter.toNat ∧ letter.toNat ≤ 57 := by
    simp only [Char.isDigit, Bool.and_eq_true, decide_eq_true_eq] at digit
    exact digit
  simp [isBlank]
  omega

theorem Text.trim_of_visible {text : List Char}
    (visible : ∀ letter ∈ text, isBlank letter = false) :
    trim text = text := by
  have kept {text : List Char}
      (visible : ∀ letter ∈ text, isBlank letter = false) :
      trimStart text = text := by
    cases text with
    | nil => rfl
    | cons letter rest =>
        exact List.dropWhile_cons_of_neg
          (by simp [visible letter List.mem_cons_self])
  rw [trim, kept visible, kept (by simpa using visible), List.reverse_reverse]

namespace Decimal

variable {K : Type} [Field K] [CharZero K]

theorem stripZeros_value (digits : Nat) (exponent : Int) :
    ((stripZeros digits exponent).1 : K) *
        10 ^ (stripZeros digits exponent).2 = digits * 10 ^ exponent := by
  fun_induction stripZeros digits exponent with
  | case1 digits exponent whole induction =>
      have tenfold : (digits : K) = (digits / 10 : Nat) * 10 := by
        have divided : digits = digits / 10 * 10 := by omega
        exact_mod_cast congrArg (Nat.cast (R := K)) divided
      rw [induction, zpow_add_one₀ (by norm_num), tenfold]
      ring
  | case2 digits exponent stripped => rfl

theorem ofDecimal_reduce (decimal : Decimal) :
    (Exact.ofDecimal decimal.reduce : K) = Exact.ofDecimal decimal := by
  unfold reduce
  split
  next zero => simp [Exact.ofDecimal, zero]
  next =>
    rw [Exact.ofDecimal, Exact.ofDecimal, mul_assoc, mul_assoc,
      stripZeros_value]

end Decimal

namespace Quantity

namespace PlainNumber

open Decimal

private theorem numeric_digitChars {digits : Nat} :
    ∀ letter ∈ digitChars digits, letter.isDigit = true :=
  fun _ => isDigit_of_mem_digitChars

private theorem numeric_zeros {count : Nat} :
    ∀ letter ∈ List.replicate count '0', letter.isDigit = true := by
  simp

private theorem digitChars_ne_nil {digits : Nat} : digitChars digits ≠ [] :=
  List.ne_nil_of_length_pos (length_digitChars_pos digits)

/-- Digits behind the point, after some zeros. -/
def behindPoint (digits zeros : Nat) : PlainNumber :=
  ⟨['0'], some (List.replicate zeros '0' ++ digitChars digits),
    List.forall_mem_append.2 ⟨by simp,
      List.forall_mem_append.2 ⟨numeric_zeros, numeric_digitChars⟩⟩,
    by simp⟩

/-- Digits before the point, and some zeros after them. -/
def beforePoint (digits zeros : Nat) : PlainNumber :=
  ⟨digitChars digits ++ List.replicate zeros '0', none,
    List.forall_mem_append.2
      ⟨List.forall_mem_append.2 ⟨numeric_digitChars, numeric_zeros⟩,
        by simp⟩,
    by simp [digitChars_ne_nil]⟩

/-- Digits of which some are before the point. -/
def aroundPoint (digits before : Nat) : PlainNumber :=
  ⟨(digitChars digits).take before, some ((digitChars digits).drop before),
    by simpa using numeric_digitChars, by simpa using digitChars_ne_nil⟩

theorem decimal_behindPoint (digits zeros : Nat) :
    (behindPoint digits zeros).decimal =
      ⟨false, digits, -((zeros + (digitChars digits).length : Nat) : Int)⟩ := by
  change ofParts false ['0'] (_ ++ _) 0 = _
  rw [ofParts, Json.readDigits_padded, List.length_append,
    List.length_replicate, Int.zero_sub]

theorem decimal_beforePoint (digits zeros : Nat) :
    (beforePoint digits zeros).decimal = ⟨false, digits * 10 ^ zeros, 0⟩ := by
  change ofParts false (_ ++ _) [] 0 = _
  rw [ofParts, readDigits_append, readDigits_digitChars, readDigits_zeros]
  rfl

theorem decimal_aroundPoint (digits before : Nat) :
    (aroundPoint digits before).decimal =
      ⟨false, digits,
        -(((digitChars digits).length - before : Nat) : Int)⟩ := by
  change ofParts false (List.take _ _) (List.drop _ _) 0 = _
  rw [ofParts, Json.readDigits_split, List.length_drop, Int.zero_sub]

end PlainNumber

section

variable {K : Type} [Field K]

/-- Digits that are laid out positionally are a plain number. -/
theorem exists_text_eq_layPositional (digits : Nat) (exponent : Int) :
    ∃ number : PlainNumber,
      number.text = Decimal.layPositional Decimal.plainStyle
          (Decimal.digitChars digits)
          (exponent + (Decimal.digitChars digits).length - 1) ∧
        (Exact.ofDecimal number.decimal : K) = digits * 10 ^ exponent := by
  have value {number : PlainNumber}
      (decimal : number.decimal = ⟨false, digits, exponent⟩) :
      (Exact.ofDecimal number.decimal : K) = digits * 10 ^ exponent := by
    rw [decimal, Exact.ofDecimal, if_neg Bool.false_ne_true, one_mul]
  rw [Decimal.layPositional]
  generalize position : exponent + (Decimal.digitChars digits).length - 1 =
    leading
  split
  next below =>
    refine ⟨.behindPoint digits (-leading - 1).toNat, rfl, value ?_⟩
    rw [PlainNumber.decimal_behindPoint]
    congr 1
    omega
  next above =>
    dsimp only
    split
    next whole =>
      obtain ⟨zeros, rfl⟩ : ∃ zeros : Nat, exponent = zeros :=
        ⟨exponent.toNat, by omega⟩
      have padding :
          leading.toNat + 1 - (Decimal.digitChars digits).length = zeros := by
        omega
      refine ⟨.beforePoint digits zeros, ?_, ?_⟩
      · simp [PlainNumber.beforePoint, PlainNumber.text, Decimal.plainStyle,
          padding]
      · rw [PlainNumber.decimal_beforePoint]
        simp [Exact.ofDecimal]
    next mixed =>
      refine ⟨.aroundPoint digits (leading.toNat + 1), ?_, value ?_⟩
      · simp [PlainNumber.aroundPoint, PlainNumber.text]
      · rw [PlainNumber.decimal_aroundPoint]
        congr 1
        omega

/-- A decimal that is not negative is written as a plain number. -/
theorem exists_text_eq_render [CharZero K] {decimal : Decimal}
    (positive : decimal.negative = false) :
    ∃ number : PlainNumber,
      number.text = decimal.render Decimal.plainStyle ∧
        (number.value : K) = Exact.ofDecimal decimal := by
  have unsigned : decimal.reduce.negative = false := by
    unfold Decimal.reduce
    split
    · exact positive
    · exact positive
  obtain ⟨number, shape, value⟩ := exists_text_eq_layPositional (K := K)
    decimal.reduce.digits decimal.reduce.exponent
  refine ⟨number, ?_, ?_⟩
  · rw [Decimal.render, shape]
    simp [unsigned, Decimal.plainStyle]
  · rw [← number.ofDecimal_decimal, value, ← Decimal.ofDecimal_reduce,
      Exact.ofDecimal, unsigned]
    simp

/-- A natural number as it is written. -/
def PlainNumber.ofNat (count : Nat) : PlainNumber := beforePoint count 0

theorem PlainNumber.text_ofNat (count : Nat) :
    (ofNat count).text = (toString (count : Int)).toList := by
  change (Decimal.digitChars count ++ []) ++ [] = _
  rw [List.append_nil, List.append_nil]
  exact Nat.toList_repr.symm

theorem PlainNumber.value_ofNat (count : Nat) :
    ((ofNat count).value : K) = count := by
  rw [← ofDecimal_decimal, ofNat, decimal_beforePoint]
  simp [Exact.ofDecimal]

end

section

open Exact

variable {K : Type} [Field K] [LinearOrder K] [FloorRing K]

/-- What is written of a value: a number of thousandths, or of bytes.  The
thousandths of processor time are counted in a signed 64-bit word. -/
def written (resource : Resource) (value : K) : K :=
  match resource with
  | .cpu =>
      (min (Int.pow 2 63 - 1) (nearest (value * (1000 : Nat))) : Int) /
        (1000 : Nat)
  | .memory => nearest value
  | _ => nearest (value * (1000 : Nat)) / (1000 : Nat)

/-- Half of the unit in which a resource is written. -/
def halfUnit (resource : Resource) : K :=
  match resource with
  | .memory => 1 / (2 : Nat)
  | _ => 1 / (2000 : Nat)

omit [LinearOrder K] [FloorRing K] in
theorem halfUnit_memory : (halfUnit .memory : K) = 1 / 2 := by
  rw [halfUnit, Nat.cast_ofNat]

omit [LinearOrder K] [FloorRing K] in
theorem halfUnit_other {resource : Resource} (notSpace : resource ≠ .memory) :
    (halfUnit resource : K) = 1 / 2000 := by
  rw [halfUnit, Nat.cast_ofNat]
  exact notSpace

theorem written_cpu (value : K) :
    written .cpu value =
      (min (Int.pow 2 63 - 1) (nearest (value * 1000)) : Int) / 1000 := by
  rw [written, Nat.cast_ofNat]

theorem written_other {resource : Resource} (notTime : resource ≠ .cpu)
    (notSpace : resource ≠ .memory) (value : K) :
    written resource value = nearest (value * 1000) / 1000 := by
  rw [written, Nat.cast_ofNat]
  · exact notTime
  · exact notSpace

variable [Transcendental K]

theorem thousandfold_eq (value : K) : thousandfold value = value * 1000 := by
  rw [thousandfold, scientific_eq]
  simp

/-- A text that is laid out by the grammar is read, whatever the resource. -/
theorem read_of_text {text : String} {number : PlainNumber} {suffix : Suffix}
    (shape : text.toList = number.text ++ suffix.text)
    (visible : ∀ letter ∈ suffix.text, Text.isBlank letter = false)
    (resource : Resource) :
    (Measurement.text text).read resource =
      .ok (number.value * suffix.factor : K) := by
  rw [Measurement.read_text_eq_ok_iff, parse_eq_ok_iff_value]
  refine ⟨number, suffix, ?_, rfl⟩
  rw [Text.trim_of_visible, shape]
  rw [shape]
  intro letter member
  rcases List.mem_append.1 member with front | back
  · rcases of_mem_text front with digit | rfl
    · exact Text.isBlank_of_isDigit digit
    · rfl
  · exact visible letter back

theorem read_whole (count : Nat) (resource : Resource) :
    (Measurement.text (toString (count : Int))).read resource =
      .ok (count : K) := by
  have shape : (toString (count : Int)).toList =
      (PlainNumber.ofNat count).text ++ Suffix.none.text := by
    simp [PlainNumber.text_ofNat, Suffix.text]
  have read := read_of_text (K := K) shape (by simp [Suffix.text]) resource
  simpa [PlainNumber.value_ofNat, Suffix.factor] using read

theorem read_thousandths (count : Nat) (resource : Resource) :
    (Measurement.text s!"{(count : Int)}m").read resource =
      .ok (count / 1000 : K) := by
  have shape : (s!"{(count : Int)}m" : String).toList =
      (PlainNumber.ofNat count).text ++ (Suffix.fraction 0).text := by
    rw [PlainNumber.text_ofNat]
    exact String.toList_append
  have read := read_of_text (K := K) shape (by simp [Suffix.text]; decide)
    resource
  rw [read, PlainNumber.value_ofNat, div_eq_mul_inv]
  simp [Suffix.factor]

theorem read_display [IsStrictOrderedRing K] {value : K}
    (positive : 0 < value) {decimal : Decimal}
    (writes : ofDecimal decimal = value) (resource : Resource) :
    (Measurement.text (Scalar.display value)).read resource =
      .ok value := by
  have written : ∃ decimal, ofDecimal decimal = value := ⟨_, writes⟩
  have chosen : (ofDecimal written.choose : K) = value := written.choose_spec
  have display : Scalar.display value =
      String.ofList (written.choose.render Decimal.plainStyle) := by
    change (numeral value).display = _
    rw [numeral, dif_pos written]
    rfl
  have unsigned : written.choose.negative = false := by
    by_contra signed
    rw [Bool.not_eq_false] at signed
    rw [ofDecimal, signed, if_pos rfl] at chosen
    have below : (-1 : K) * written.choose.digits *
        10 ^ written.choose.exponent ≤ 0 := by
      rw [mul_assoc, neg_one_mul, neg_nonpos]
      positivity
    linarith
  obtain ⟨number, shape, worth⟩ := exists_text_eq_render (K := K) unsigned
  have laidOut : (Scalar.display value).toList =
      number.text ++ Suffix.none.text := by
    simp [display, shape, Suffix.text]
  have read := read_of_text (K := K) laidOut (by simp [Suffix.text]) resource
  rw [read, worth, chosen, Suffix.factor, mul_one]

end

/-- A number with decimal places only if it has any. -/
def plain {α : Type} [Scalar α] (value : α) : String :=
  if isWhole value then s!"{Scalar.truncate value}"
  else Scalar.display value

section

open Exact

variable {K : Type} [Field K] [LinearOrder K] [FloorRing K]
  [Transcendental K]

theorem isWhole_iff {value : K} :
    isWhole value = true ↔ (nearest value : K) = value := by
  rw [isWhole, Scalar.same, round_eq_nearest, isFinite_eq, Bool.true_and,
    Bool.and_eq_true, decide_eq_true_iff, decide_eq_true_iff]
  exact le_antisymm_iff.symm

theorem render_other {resource : Resource} (notTime : resource ≠ .cpu)
    (notSpace : resource ≠ .memory) (value : K) :
    render resource value = plain (written resource value) := by
  have rounded : Scalar.round (thousandfold value) /
      Scalar.scientific 1000 0 = (nearest (value * 1000) / 1000 : K) := by
    rw [thousandfold_eq, round_eq_nearest, scientific_eq]
    simp
  rw [written_other notTime notSpace, ← rounded]
  cases resource <;> first | rfl | contradiction

variable [IsStrictOrderedRing K]

theorem truncate_of_nonneg {count : Int} (nonneg : 0 ≤ count) :
    Scalar.truncate (count : K) = min (Int.pow 2 63 - 1) count := by
  have power : Int.pow 2 63 = 9223372036854775808 := rfl
  rw [truncate_intCast, power]
  omega

theorem read_plain {count : Nat} (fits : count ≤ 2 ^ 63)
    (resource : Resource) :
    (Measurement.text (plain (count / 1000 : K))).read resource =
      .ok (count / 1000 : K) := by
  have nonneg : (0 : K) ≤ count / 1000 := by positivity
  unfold plain
  split
  next whole =>
    rw [isWhole_iff] at whole
    obtain ⟨units, same⟩ := Int.eq_ofNat_of_zero_le (nearest_nonneg nonneg)
    rw [same, Int.cast_natCast] at whole
    have thousands : units * 1000 = count := by
      have multiplied : (units : K) * 1000 = count := by
        rw [whole, div_mul_cancel₀ _ (by norm_num)]
      exact_mod_cast multiplied
    have short : min (Int.pow 2 63 - 1) (units : Int) = units := by
      have power : Int.pow 2 63 = 2 ^ 63 := rfl
      omega
    have truncated : Scalar.truncate (units : K) = units := by
      rw [← Int.cast_natCast, truncate_of_nonneg (Int.natCast_nonneg units),
        short]
    rw [← whole, truncated]
    exact read_whole units resource
  next fractional =>
    have counted : count ≠ 0 := by
      rintro rfl
      apply fractional
      rw [isWhole_iff]
      simpa using nearest_intCast (K := K) 0
    have writes : (ofDecimal ⟨false, count, -3⟩ : K) = count / 1000 := by
      rw [ofDecimal, if_neg Bool.false_ne_true, one_mul, div_eq_mul_inv]
      norm_num
    exact read_display (by positivity) writes resource

theorem render_cpu {value : K} (nonneg : 0 ≤ value) :
    render .cpu value =
      s!"{min (Int.pow 2 63 - 1) (nearest (value * 1000))}m" := by
  rw [render, thousandfold_eq, round_eq_nearest, truncate_of_nonneg]
  exact nearest_nonneg (by positivity)

theorem render_memory {value : K} (nonneg : 0 ≤ value) :
    render .memory value =
      s!"{min (Int.pow 2 63 - 1) (nearest value)}" := by
  rw [render, round_eq_nearest, truncate_of_nonneg (nearest_nonneg nonneg)]

/-- What is written of a value is read again. -/
theorem read_render {value : K} (nonneg : 0 ≤ value)
    (fits : value * 1000 < 2 ^ 63) (resource : Resource) :
    (Measurement.text (render resource value)).read resource =
      .ok (written resource value) := by
  have scaled : 0 ≤ value * 1000 := by positivity
  rcases eq_or_ne resource .cpu with rfl | notTime
  · obtain ⟨units, same⟩ : ∃ units : Nat,
        min (Int.pow 2 63 - 1) (nearest (value * 1000)) = units :=
      Int.eq_ofNat_of_zero_le (le_min (by decide) (nearest_nonneg scaled))
    rw [render_cpu nonneg, written_cpu, same, read_thousandths,
      Int.cast_natCast]
  rcases eq_or_ne resource .memory with rfl | notSpace
  · obtain ⟨units, same⟩ := Int.eq_ofNat_of_zero_le (nearest_nonneg nonneg)
    have bound : nearest value ≤ 2 ^ 62 := by
      refine nearest_le nonneg ?_
      push_cast
      linarith
    have short : min (Int.pow 2 63 - 1) (nearest value) = units := by
      have power : Int.pow 2 63 = 2 ^ 63 := rfl
      omega
    rw [render_memory nonneg, short, written, same, Int.cast_natCast]
    exact read_whole units .memory
  · obtain ⟨units, same⟩ := Int.eq_ofNat_of_zero_le (nearest_nonneg scaled)
    have bound : nearest (value * 1000) ≤ 2 ^ 63 :=
      nearest_le scaled (by exact_mod_cast fits)
    rw [render_other notTime notSpace, written_other notTime notSpace, same,
      Int.cast_natCast]
    exact read_plain (by omega) resource

/-- What is written of a value is written again of what is read. -/
theorem render_written {value : K} (nonneg : 0 ≤ value)
    (resource : Resource) :
    render resource (written resource value) = render resource value := by
  have scaled : 0 ≤ nearest (value * 1000) :=
    nearest_nonneg (by positivity)
  have again (count : Int) : nearest ((count / 1000 : K) * 1000) = count := by
    rw [div_mul_cancel₀ _ (by norm_num), nearest_intCast]
  rcases eq_or_ne resource .cpu with rfl | notTime
  · have counted : 0 ≤ min (Int.pow 2 63 - 1) (nearest (value * 1000)) :=
      le_min (by decide) scaled
    rw [written_cpu, render_cpu nonneg, render_cpu, again,
      min_eq_right (min_le_left _ _)]
    exact div_nonneg (Int.cast_nonneg counted) (by norm_num)
  rcases eq_or_ne resource .memory with rfl | notSpace
  · rw [render_memory nonneg, render_memory, written, nearest_intCast]
    exact Int.cast_nonneg (nearest_nonneg nonneg)
  · rw [render_other notTime notSpace, render_other notTime notSpace,
      written_other notTime notSpace, written_other notTime notSpace, again]

omit [Transcendental K] in
theorem written_mono {left right : K} (nonneg : 0 ≤ left)
    (below : left ≤ right) (resource : Resource) :
    written resource left ≤ written resource right := by
  have fine : nearest (left * 1000) ≤ nearest (right * 1000) :=
    nearest_mono (by positivity) (by linarith)
  have divided {first second : Int} (least : first ≤ second) :
      (first / 1000 : K) ≤ second / 1000 :=
    div_le_div_of_nonneg_right (Int.cast_le.2 least) (by norm_num)
  rcases eq_or_ne resource .cpu with rfl | notTime
  · rw [written_cpu, written_cpu]
    exact divided (min_le_min_left _ fine)
  rcases eq_or_ne resource .memory with rfl | notSpace
  · exact Int.cast_le.2 (nearest_mono nonneg below)
  · rw [written_other notTime notSpace, written_other notTime notSpace]
    exact divided fine

omit [Transcendental K] in
/-- The units that are counted are at most half a unit off, unless there are
more than the word holds. -/
theorem abs_counted_sub_le {value : K} (nonneg : 0 ≤ value)
    (fits : value ≤ 2 ^ 63 - 1 / 2) :
    |((min (Int.pow 2 63 - 1) (nearest value) : Int) : K) - value| ≤
      1 / 2 := by
  have near := abs_nearest_sub_le nonneg
  rcases le_total (nearest value) (Int.pow 2 63 - 1) with within | beyond
  · rwa [min_eq_right within]
  · have reached : ((Int.pow 2 63 - 1 : Int) : K) ≤ nearest value :=
      Int.cast_le.2 beyond
    have last : ((Int.pow 2 63 - 1 : Int) : K) = 2 ^ 63 - 1 := by
      norm_num [Int.pow]
    rw [min_eq_left beyond]
    rw [last] at reached ⊢
    rw [abs_le] at near ⊢
    constructor <;> linarith

omit [Transcendental K] in
theorem abs_written_sub_le {value : K} (nonneg : 0 ≤ value)
    {resource : Resource}
    (fits : resource = .cpu → value * 1000 ≤ 2 ^ 63 - 1 / 2) :
    |written resource value - value| ≤ halfUnit resource := by
  have scaled : 0 ≤ value * 1000 := by positivity
  have divided {count : Int} (near : |(count : K) - value * 1000| ≤ 1 / 2) :
      |(count : K) / 1000 - value| ≤ 1 / 2000 := by
    rw [abs_le] at near ⊢
    constructor <;> linarith
  rcases eq_or_ne resource .cpu with rfl | notTime
  · rw [written_cpu, halfUnit_other (by decide)]
    exact divided (abs_counted_sub_le scaled (fits rfl))
  rcases eq_or_ne resource .memory with rfl | notSpace
  · rw [halfUnit_memory]
    exact abs_nearest_sub_le nonneg
  · rw [written_other notTime notSpace, halfUnit_other notSpace]
    exact divided (abs_nearest_sub_le scaled)

/-- The last unit that fits the word is less than a unit off. -/
theorem saturated {value : K} (nonneg : 0 ≤ value)
    (fits : value * 1000 < 2 ^ 63)
    (beyond : 2 ^ 63 - 1 / 2 < value * 1000) :
    render .cpu value = "9223372036854775807m" ∧
      written .cpu value = 9223372036854775807 / 1000 := by
  have above : nearest (value * 1000) = 2 ^ 63 := by
    rw [nearest_of_nonneg (by positivity), Int.floor_eq_iff]
    push_cast
    constructor <;> linarith
  have last : min (Int.pow 2 63 - 1) (nearest (value * 1000)) =
      9223372036854775807 := by
    rw [above]
    decide
  constructor
  · rw [render_cpu nonneg, last]
    rfl
  · rw [written_cpu, last]
    norm_num

/-- What is written of a value below `2 ^ 63` thousandths is accepted again
for its resource.  The value that is read is at most half a unit off, is
written as the same text, and does not fall as the value grows.  Only the
last half thousandth of processor time does not fit the word in which it is
counted: there the last one that fits is written, less than a unit off. -/
theorem written_quantity_read {value : K} (nonneg : 0 ≤ value)
    (fits : value * 1000 < 2 ^ 63) (resource : Resource) :
    ∃ parsed : K,
      (Measurement.text (render resource value)).read resource =
        .ok parsed ∧
      ((resource = .cpu → value * 1000 ≤ 2 ^ 63 - 1 / 2) →
        |parsed - value| ≤ halfUnit resource) ∧
      (resource = .cpu → 2 ^ 63 - 1 / 2 < value * 1000 →
        render resource value = "9223372036854775807m" ∧
          |parsed - value| < 1 / 1000) ∧
      render resource parsed = render resource value ∧
      ∀ later other, value ≤ later → later * 1000 < 2 ^ 63 →
        (Measurement.text (render resource later)).read resource =
          .ok other → parsed ≤ other := by
  refine ⟨written resource value, read_render nonneg fits resource,
    abs_written_sub_le nonneg, ?_, render_written nonneg resource, ?_⟩
  · rintro rfl beyond
    obtain ⟨text, last⟩ := saturated nonneg fits beyond
    refine ⟨text, ?_⟩
    rw [last, abs_lt]
    norm_num at fits beyond
    constructor <;> linarith
  · intro later other above within accepted
    rw [read_render (nonneg.trans above) within] at accepted
    obtain rfl := Except.ok.inj accepted
    exact written_mono nonneg above resource

end

open scoped Exact in
theorem quarter_core_read :
    let value : ℝ := 1 / 4
    0 ≤ value ∧ value * 1000 < 2 ^ 63 ∧
      ∃ parsed, (Measurement.text (render .cpu value)).read .cpu =
        .ok parsed ∧ |parsed - value| ≤ halfUnit .cpu := by
  intro value
  have nonneg : 0 ≤ value := by norm_num [value]
  have fits : value * 1000 < 2 ^ 63 := by norm_num [value]
  obtain ⟨parsed, accepted, near, -⟩ := written_quantity_read nonneg fits .cpu
  exact ⟨nonneg, fits, parsed, accepted,
    near fun _ => by norm_num [value]⟩

open scoped Exact in
/-- A quarter of a thousandth below the limit, what is written is three
quarters off. -/
theorem last_thousandth_saturated :
    let value : ℝ := (2 ^ 63 - 1 / 4) / 1000
    0 ≤ value ∧ value * 1000 < 2 ^ 63 ∧
      ∃ parsed, (Measurement.text (render .cpu value)).read .cpu =
        .ok parsed ∧ ¬ |parsed - value| ≤ halfUnit .cpu := by
  intro value
  have nonneg : 0 ≤ value := by norm_num [value]
  have fits : value * 1000 < 2 ^ 63 := by norm_num [value]
  refine ⟨nonneg, fits, _, read_render nonneg fits .cpu, ?_⟩
  rw [(saturated nonneg fits (by norm_num [value])).2,
    halfUnit_other (by decide), not_le, lt_abs]
  norm_num [value]

end Quantity

end UsageForecast
