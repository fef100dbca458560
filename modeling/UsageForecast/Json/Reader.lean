import UsageForecast.Json.Basic
import UsageForecast.Decimal.Literal

/-!
# Structured data, read

A strict reader: one value and blanks around it, no trailing commas, no
leading zeros, no raw control characters in strings, and every escape names a
character.  Each step consumes text, so the length of the text bounds the
recursion.
-/

namespace UsageForecast.Json

def isSpace (letter : Char) : Bool :=
  letter == ' ' || letter == '\n' || letter == '\t' || letter == '\r'

def skipSpace (text : List Char) : List Char := text.dropWhile isSpace

def hexDigit? (letter : Char) : Option Nat :=
  if '0' ≤ letter ∧ letter ≤ '9' then
    some (letter.toNat - '0'.toNat)
  else if 'a' ≤ letter ∧ letter ≤ 'f' then
    some (letter.toNat - 'a'.toNat + 10)
  else if 'A' ≤ letter ∧ letter ≤ 'F' then
    some (letter.toNat - 'A'.toNat + 10)
  else
    none

def readFourHex : List Char → Option (Nat × List Char)
  | first :: second :: third :: fourth :: rest => do
      let first ← hexDigit? first
      let second ← hexDigit? second
      let third ← hexDigit? third
      let fourth ← hexDigit? fourth
      return (((first * 16 + second) * 16 + third) * 16 + fourth, rest)
  | _ => none

/-- The character of an escape by code: a code unit, or two that form a
surrogate pair. -/
def readCodeEscape (text : List Char) : Option (Char × List Char) := do
  let (unit, rest) ← readFourHex text
  if unit < 0xd800 ∨ 0xe000 ≤ unit then
    return (Char.ofNat unit, rest)
  else if unit < 0xdc00 then
    match rest with
    | '\\' :: 'u' :: rest => do
        let (low, rest) ← readFourHex rest
        if 0xdc00 ≤ low ∧ low < 0xe000 then
          let code := 0x10000 + (unit - 0xd800) * 0x400 + (low - 0xdc00)
          return (Char.ofNat code, rest)
        else
          none
    | _ => none
  else
    none

/-- The character of an escape, after the backslash. -/
def readEscape : List Char → Option (Char × List Char)
  | '\"' :: rest => some ('\"', rest)
  | '\\' :: rest => some ('\\', rest)
  | '/' :: rest => some ('/', rest)
  | 'b' :: rest => some ('\x08', rest)
  | 'f' :: rest => some ('\x0c', rest)
  | 'n' :: rest => some ('\n', rest)
  | 'r' :: rest => some ('\r', rest)
  | 't' :: rest => some ('\t', rest)
  | 'u' :: rest => readCodeEscape rest
  | _ => none

/-- The characters of a string up to its closing quote, after those already
read in reverse. -/
def readChars : Nat → List Char → List Char → Option (List Char × List Char)
  | 0, _, _ => none
  | fuel + 1, done, text =>
      match text with
      | [] => none
      | '\"' :: rest => some (done.reverse, rest)
      | '\\' :: rest =>
          match readEscape rest with
          | none => none
          | some (letter, rest) => readChars fuel (letter :: done) rest
      | letter :: rest =>
          if letter.toNat < 0x20 then none
          else readChars fuel (letter :: done) rest

/-- A string after its opening quote. -/
def readString (text : List Char) : Option (String × List Char) := do
  let (letters, rest) ← readChars (text.length + 1) [] text
  return (String.ofList letters, rest)

/-- The number of an integer literal: words of 64 bits stay integers, other
integers and the negative zero are decimals. -/
def integerNumber (negative : Bool) (magnitude : Nat) : Number :=
  if negative then
    if 0 < magnitude ∧ magnitude ≤ Nat.pow 2 63 then
      .integer (-(magnitude : Int))
    else
      .decimal (Decimal.reduce ⟨true, magnitude, 0⟩)
  else if magnitude < UInt64.size then
    .integer magnitude
  else
    .decimal (Decimal.reduce ⟨false, magnitude, 0⟩)

/-- The digits of a fraction after the whole part; a point needs digits. -/
def readFraction? : List Char → Option (Option (List Char) × List Char)
  | '.' :: rest =>
      let (digits, rest) := spanDigits rest
      if digits.isEmpty then none else some (some digits, rest)
  | rest => some (none, rest)

/-- The exponent after the digits; an exponent mark needs digits. -/
def readExponent? : List Char → Option (Option Int × List Char)
  | [] => some (none, [])
  | mark :: rest =>
      if mark == 'e' || mark == 'E' then
        let (negative, rest) := splitSign rest
        let (digits, rest) := spanDigits rest
        if digits.isEmpty then
          none
        else
          let magnitude : Int := Decimal.readDigits 0 digits
          some (some (if negative then -magnitude else magnitude), rest)
      else
        some (none, mark :: rest)

/-- A number: no leading zeros, no lone point, no lone exponent mark. -/
def readNumber (text : List Char) : Option (Number × List Char) := do
  let (negative, unsigned) :=
    match text with
    | '-' :: rest => (true, rest)
    | rest => (false, rest)
  let (whole, rest) := spanDigits unsigned
  if whole.isEmpty || (whole.head? == some '0' && 1 < whole.length) then
    none
  else
    let (fraction?, rest) ← readFraction? rest
    let (scale?, rest) ← readExponent? rest
    match fraction?, scale? with
    | none, none =>
        return (integerNumber negative (Decimal.readDigits 0 whole), rest)
    | _, _ =>
        let value := Decimal.ofParts negative whole
          (fraction?.getD []) (scale?.getD 0)
        return (.decimal value.reduce, rest)

mutual

/-- One value with the blanks before it. -/
def readValue : Nat → List Char → Option (Json × List Char)
  | 0, _ => none
  | fuel + 1, text =>
      match skipSpace text with
      | 'n' :: 'u' :: 'l' :: 'l' :: rest => some (.null, rest)
      | 't' :: 'r' :: 'u' :: 'e' :: rest => some (.bool true, rest)
      | 'f' :: 'a' :: 'l' :: 's' :: 'e' :: rest => some (.bool false, rest)
      | '\"' :: rest => do
          let (value, rest) ← readString rest
          return (.string value, rest)
      | '[' :: rest =>
          match skipSpace rest with
          | ']' :: rest => some (.array [], rest)
          | _ => do
              let (items, rest) ← readItems fuel rest
              return (.array items, rest)
      | '\x7b' :: rest =>
          match skipSpace rest with
          | '\x7d' :: rest => some (.object [], rest)
          | _ => do
              let (members, rest) ← readMembers fuel rest
              return (.object members, rest)
      | rest => do
          let (value, rest) ← readNumber rest
          return (.number value, rest)

/-- The items of an array that has one, with its closing bracket. -/
def readItems : Nat → List Char → Option (List Json × List Char)
  | 0, _ => none
  | fuel + 1, text => do
      let (item, rest) ← readValue fuel text
      match skipSpace rest with
      | ',' :: rest => do
          let (items, rest) ← readItems fuel rest
          return (item :: items, rest)
      | ']' :: rest => return ([item], rest)
      | _ => none

def readMembers : Nat → List Char → Option (List (String × Json) × List Char)
  | 0, _ => none
  | fuel + 1, text =>
      match skipSpace text with
      | '\"' :: rest => do
          let (name, rest) ← readString rest
          match skipSpace rest with
          | ':' :: rest => do
              let (value, rest) ← readValue fuel rest
              match skipSpace rest with
              | ',' :: rest => do
                  let (members, rest) ← readMembers fuel rest
                  return ((name, value) :: members, rest)
              | '\x7d' :: rest => return ([(name, value)], rest)
              | _ => none
          | _ => none
      | _ => none

end

/-- The value that a whole text holds. -/
def read? (text : List Char) : Option Json := do
  let (value, rest) ← readValue (text.length + 1) text
  if (skipSpace rest).isEmpty then some value else none

def ofText? (text : String) : Option Json := read? text.toList

end UsageForecast.Json
