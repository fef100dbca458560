import UsageForecast.Json.Basic
import UsageForecast.SortedMap
import UsageForecast.Scalar.Basic

/-!
# Records in structured data

How typed values are written as structured data and read back.  A record is
an object, or an array of its fields in order; unknown members are skipped, a
known member may not be repeated, and a tagged record names its variant in a
member of its own.
-/

namespace UsageForecast.Json

/-- The fields of a record that have not been read yet. -/
inductive Fields where
  | named (members : List (String × Json))
  | positional (items : List Json)

namespace Fields

/-- Take the field of a name, or the next one by position.  A name that
occurs twice is refused. -/
def take? (name : String) : Fields → Option (Option Json × Fields)
  | .named members =>
      let (found, rest) := members.partition fun member => member.1 == name
      match found with
      | [] => some (none, .named rest)
      | [(_, value)] => some (some value, .named rest)
      | _ => none
  | .positional [] => some (none, .positional [])
  | .positional (item :: rest) => some (some item, .positional rest)

/-- Whether a position is left over. -/
def exhausted : Fields → Bool
  | .named _ => true
  | .positional items => items.isEmpty

def byName : Fields → Bool
  | .named _ => true
  | .positional _ => false

end Fields

abbrev FieldReader := StateT Fields Option

def required {ε : Type} (name : String) (decode : Json → Option ε) :
    FieldReader ε := fun fields => do
  let (found, rest) ← fields.take? name
  let value ← found
  let result ← decode value
  return (result, rest)

/-- A field with a value for its absence; a null is not an absence. -/
def defaulted {ε : Type} (name : String) (absent : ε)
    (decode : Json → Option ε) : FieldReader ε := fun fields => do
  let (found, rest) ← fields.take? name
  match found with
  | none => return (absent, rest)
  | some value => do
      let result ← decode value
      return (result, rest)

def nullable {ε : Type} (decode : Json → Option ε) : Json → Option (Option ε)
  | .null => some none
  | value => (decode value).map some

def optional {ε : Type} (name : String) (decode : Json → Option ε) :
    FieldReader (Option ε) :=
  defaulted name none (nullable decode)

/-- A field that may be null, and absent only where fields have names. -/
def nameable {ε : Type} (name : String) (decode : Json → Option ε) :
    FieldReader (Option ε) := fun fields =>
  if fields.byName then optional name decode fields
  else required name (nullable decode) fields

/-- Read all fields of a record; positions may not be left over. -/
def readFields {ε : Type} (reader : FieldReader ε) (fields : Fields) :
    Option ε := do
  let (result, rest) ← reader fields
  if rest.exhausted then some result else none

/-- Read a record from an object or from an array of its fields. -/
def record {ε : Type} (reader : FieldReader ε) : Json → Option ε
  | .object members => readFields reader (.named members)
  | .array items => readFields reader (.positional items)
  | _ => none

/-- The deepest nesting that a tagged record may have. -/
def depthLimit : Nat := 127

/-- Read a record whose variant is named by a member, or by the first of its
positions. -/
def tagged {ε : Type} (tag : String)
    (variant? : String → Option (FieldReader ε)) (value : Json) : Option ε :=
  if depthLimit < value.depth then
    none
  else
    match value with
    | .object members => do
        let (found, rest) ← Fields.take? tag (.named members)
        let name ← found >>= text?
        let reader ← variant? name
        readFields reader rest
    | .array (first :: items) => do
        let name ← text? first
        let reader ← variant? name
        readFields reader (.positional items)
    | _ => none

/-- Read the name of a plain variant: a string, or the only member of an
object whose value is null. -/
def variantName? : Json → Option String
  | .string name => some name
  | .object [(name, .null)] => some name
  | _ => none

def variant {ε : Type} (parse? : String → Option ε) (value : Json) :
    Option ε :=
  variantName? value >>= parse?

def listOf {ε : Type} (decode : Json → Option ε) (value : Json) :
    Option (List ε) := do
  (← value.items?).mapM decode

/-- Read an object as a map; of a repeated name the last member stays. -/
def mapOf {κ ε : Type} [Ord κ] [Std.TransOrd κ] (key? : String → Option κ)
    (decode : Json → Option ε) : Json → Option (SortedMap κ ε)
  | .object members => do
      let entries ← members.mapM fun (name, value) => do
        return ((← key? name), (← decode value))
      return SortedMap.ofList entries
  | _ => none

/-- Write a map as an object in the order of its keys. -/
def ofMap {κ ε : Type} [Ord κ] (name : κ → String) (encode : ε → Json)
    (map : SortedMap κ ε) : Json :=
  .object (map.entries.map fun (key, value) => (name key, encode value))

def truth? : Json → Option Bool
  | .bool value => some value
  | _ => none

def integerIn? (low high : Int) : Json → Option Int
  | .number (.integer value) =>
      if low ≤ value ∧ value ≤ high then some value else none
  | _ => none

def naturalBelow? (bound : Nat) (value : Json) : Option Nat :=
  (integerIn? 0 (bound - 1) value).map Int.toNat

def word? (value : Json) : Option Nat := naturalBelow? UInt64.size value

def Number.toDecimal : Number → Decimal
  | .integer value => Decimal.ofInt value
  | .decimal value => value

section Scalars

variable {α : Type} [Scalar α]

/-- Read a scalar; numbers beyond its range are refused. -/
def scalar? : Json → Option α
  | .number literal =>
      let value : α := Scalar.ofDecimal literal.toDecimal
      if Scalar.isFinite value then some value else none
  | _ => none

/-- Write a scalar; values that are no decimal are null. -/
def ofScalar (value : α) : Json :=
  match Scalar.toNumeral value with
  | .decimal decimal => .number (.decimal decimal)
  | _ => .null

end Scalars

end UsageForecast.Json
