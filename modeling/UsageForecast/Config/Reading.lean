import UsageForecast.Decimal.Literal
import UsageForecast.Target

/-!
# Reading plain values of a configuration

A configuration that is given as data is read exactly.  One that is put
together from a file and the environment is read loosely: a number may be
given as a text or as a truth value, a text as a number, and names of variants
in any case.
-/

namespace UsageForecast

/-- How the plain values of a configuration are read. -/
structure Config.Reading (α : Type) where
  text : Json → Option String
  word : Json → Option Nat
  truth : Json → Option Bool
  scalar : Json → Option α
  level : Json → Option Level

namespace Config.Reading

def lower (text : String) : String :=
  String.ofList (text.toList.map Char.toLower)

def trueWords : List String := ["true", "on", "yes"]

def falseWords : List String := ["false", "off", "no"]

def word? (text : String) : Option Bool :=
  if trueWords.contains (lower text) then some true
  else if falseWords.contains (lower text) then some false
  else none

/-- Whether an integer is a signed 64-bit word; others are kept as
scalars. -/
def isSigned (value : Int) : Bool :=
  -Int.pow 2 63 ≤ value && value < Int.pow 2 63

section

variable {α : Type} [Scalar α]

def exact : Reading α :=
  ⟨Json.text?, Json.word?, Json.truth?, Json.scalar?, Level.ofJson?⟩

/-- The nearest unsigned 64-bit word to a scalar. -/
def nearestWord (value : α) : Nat :=
  if Scalar.scientific UInt64.size 0 ≤ value then UInt64.size - 1
  else if Scalar.scientific (Nat.pow 2 63) 0 ≤ value then
    2 * (Scalar.truncate (value / Scalar.scientific 2 0)).toNat
  else (Scalar.truncate (Scalar.round value)).toNat

/-- The unsigned 64-bit word that a text spells. -/
def parseWord? (text : List Char) : Option Nat :=
  if text.head? = some '-' then none
  else
    match parseInteger? text with
    | some value =>
        if value < UInt64.size then some value.toNat else none
    | none => none

def looseText (α : Type) [Scalar α] : Json → Option String
  | .string text => some text
  | .bool value => some (if value then "true" else "false")
  | .number (.integer value) =>
      if isSigned value then some s!"{value}"
      else some (Scalar.display (Scalar.ofDecimal (Decimal.ofInt value) : α))
  | .number (.decimal value) =>
      some (Scalar.display (Scalar.ofDecimal value : α))
  | _ => none

def looseWord (α : Type) [Scalar α] : Json → Option Nat
  | .number (.integer value) =>
      if isSigned value then
        if value < 0 then none else some value.toNat
      else
        some (nearestWord (Scalar.ofDecimal (Decimal.ofInt value) : α))
  | .number (.decimal value) =>
      some (nearestWord (Scalar.ofDecimal value : α))
  | .bool value => some (if value then 1 else 0)
  | .string text =>
      match word? text with
      | some value => some (if value then 1 else 0)
      | none => parseWord? text.toList
  | _ => none

def looseTruth (α : Type) [Scalar α] : Json → Option Bool
  | .bool value => some value
  | .number (.integer value) => some (value != 0)
  | .number (.decimal value) =>
      some (!Scalar.same (Scalar.ofDecimal value : α) 0)
  | .string "1" => some true
  | .string "0" => some false
  | .string text => word? text
  | _ => none

def looseScalar : Json → Option α
  | .number value => some (Scalar.ofDecimal value.toDecimal)
  | .bool value => some (if value then 1 else 0)
  | .string text =>
      match word? text with
      | some value => some (if value then 1 else 0)
      | none => Numeral.parse? text.toList >>= Scalar.ofNumeral?
  | _ => none

/-- The level of a name in any case. -/
def looseLevel? (name : String) : Option Level :=
  [Level.pod, .container].find? fun level => lower level.name == lower name

/-- Read a level loosely: by its name, or as the only member of an object. -/
def looseLevel : Json → Option Level
  | .string name => looseLevel? name
  | .object [(name, _)] => looseLevel? name
  | _ => none

def loose : Reading α :=
  ⟨looseText α, looseWord α, looseTruth α, looseScalar, looseLevel⟩

end

end Config.Reading

end UsageForecast
