import UsageForecast.Json.Record

/-!
# Codecs

A codec writes the values of a type as structured data and reads them back.
A list is an array, and an absent value is null.
-/

namespace UsageForecast

/-- How the values of a type are written and read. -/
class Codec (ε : Type) where
  encode : ε → Json
  decode? : Json → Option ε

namespace Codec

variable {ε : Type}

instance : Codec String := ⟨.string, Json.text?⟩

instance : Codec Bool := ⟨.bool, Json.truth?⟩

instance [Codec ε] : Codec (List ε) :=
  ⟨fun values => .array (values.map encode), Json.listOf decode?⟩

instance [Codec ε] : Codec (Option ε) :=
  ⟨Json.ofOption encode, Json.nullable decode?⟩

def recode? (ε : Type) [Codec ε] (value : Json) : Option Json :=
  (decode? value : Option ε).map encode

end Codec

end UsageForecast
