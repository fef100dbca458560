import UsageForecast.Failure
import UsageForecast.Resource
import UsageForecast.Scalar.Basic
import UsageForecast.Decimal.Literal
import UsageForecast.Text.Blank

/-!
# Usage quantities, read

A quantity is a decimal number without a sign, followed by nothing, by a
suffix for a power of ten or two, or by a decimal exponent.  Values are
admitted only if they are finite and not negative.
-/

namespace UsageForecast.Quantity

inductive Fault where
  | notPlainNumber (resource : Resource)
  | malformedNumber
  | unknownSuffix (suffix : String)
  | notFinite
  | notAdmitted (resource : Resource)
deriving DecidableEq, Repr, Inhabited

def Fault.message : Fault → String
  | .notPlainNumber resource =>
      s!"expected a non-negative number for {resource.name}"
  | .malformedNumber => "invalid float literal"
  | .unknownSuffix suffix => s!"unknown suffix {Text.quote suffix}"
  | .notFinite => "value is not finite"
  | .notAdmitted resource => s!"invalid {resource.name} usage"

def Fault.failure (fault : Fault) (text : String) : Failure :=
  .unreadable text fault.message

def isLetter (letter : Char) : Bool := letter.isAlpha

/-- The number and the suffix of a quantity: it is cut before the first
letter. -/
def cut (text : List Char) : List Char × List Char :=
  text.span fun letter => !isLetter letter

/-- Whether a text has only digits and points, and at least one. -/
def isPlainNumber (text : List Char) : Bool :=
  !text.isEmpty && text.all fun letter => letter.isDigit || letter == '.'

def readNumber? (text : List Char) : Option Decimal :=
  match Decimal.splitPoint? text with
  | some (whole, fraction, []) =>
      some (Decimal.ofParts false whole fraction 0)
  | _ => none

/-- The exponent that a suffix spells, if it fits a signed 32-bit word. -/
def readExponent? : List Char → Option Int
  | mark :: digits =>
      if mark == 'e' || mark == 'E' then
        match parseInteger? digits with
        | some exponent =>
            if -Int.pow 2 31 ≤ exponent ∧ exponent < Int.pow 2 31 then
              some exponent
            else
              none
        | none => none
      else
        none
  | [] => none

section

variable {α : Type} [Scalar α]

def thousands (count : Int) : α := Scalar.scientific 1 (3 * count)

/-- Multiply by 1024 a number of times. -/
def timesBinary (value : α) : Nat → α
  | 0 => value
  | count + 1 => timesBinary value count * Scalar.scientific 1024 0

/-- A number with its suffix applied, unless the suffix means nothing. -/
def applySuffix? (number : α) (suffix : List Char) : Option α :=
  match suffix with
  | [] => some number
  | ['B'] => some number
  | ['n'] => some (number / thousands 3)
  | ['u'] => some (number / thousands 2)
  | ['m'] => some (number / thousands 1)
  | ['k'] => some (number * thousands 1)
  | ['M'] => some (number * thousands 2)
  | ['G'] => some (number * thousands 3)
  | ['T'] => some (number * thousands 4)
  | ['K', 'i'] => some (timesBinary number 1)
  | ['M', 'i'] => some (timesBinary number 2)
  | ['G', 'i'] => some (timesBinary number 3)
  | ['T', 'i'] => some (timesBinary number 4)
  | other =>
      (readExponent? other).map fun exponent =>
        number * Scalar.power (Scalar.scientific 10 0) exponent

def parse (text : String) (resource : Resource) : Except Fault α :=
  let (number, suffix) := cut (Text.trim text.toList)
  if isPlainNumber number then
    match readNumber? number with
    | none => .error .malformedNumber
    | some decimal =>
        match applySuffix? (Scalar.ofDecimal decimal : α) suffix with
        | none => .error (.unknownSuffix (String.ofList suffix))
        | some value =>
            if Scalar.isFinite value then .ok value else .error .notFinite
  else
    .error (.notPlainNumber resource)

/-- A value that is already a number, if it is admitted. -/
def check (value : α) (resource : Resource) : Except Fault α :=
  if Scalar.isFinite value && decide (0 ≤ value) then .ok value
  else .error (.notAdmitted resource)

end

end UsageForecast.Quantity
