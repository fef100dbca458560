import UsageForecast.Json.Basic
import UsageForecast.Decimal.Rendering
import UsageForecast.Text.Quoted

/-!
# Structured data, written

The compact text of structured data: no blanks, members in their order, only
the quote, the backslash and control characters escaped.
-/

namespace UsageForecast.Json

def fourHexDigits (value : Nat) : List Char :=
  let digits := Text.hexDigits value
  List.replicate (4 - digits.length) '0' ++ digits

/-- How one character of a string is written. -/
def escapeChar (letter : Char) : List Char :=
  if letter == '\"' then ['\\', '\"']
  else if letter == '\\' then ['\\', '\\']
  else if letter == '\n' then ['\\', 'n']
  else if letter == '\r' then ['\\', 'r']
  else if letter == '\t' then ['\\', 't']
  else if letter == '\x08' then ['\\', 'b']
  else if letter == '\x0c' then ['\\', 'f']
  else if letter.toNat < 0x20 then
    ['\\', 'u'] ++ fourHexDigits letter.toNat
  else [letter]

def writeString (text : String) : List Char :=
  ['\"'] ++ text.toList.flatMap escapeChar ++ ['\"']

def writeInteger (value : Int) : List Char :=
  (if value < 0 then ['-'] else []) ++ Decimal.digitChars value.natAbs

def writeNumber : Number → List Char
  | .integer value => writeInteger value
  | .decimal value => value.render Decimal.dataStyle

mutual

/-- The compact text of a value. -/
def write : Json → List Char
  | .null => "null".toList
  | .bool true => "true".toList
  | .bool false => "false".toList
  | .number value => writeNumber value
  | .string value => writeString value
  | .array items => ['['] ++ writeItems items ++ [']']
  | .object members => ['\x7b'] ++ writeMembers members ++ ['\x7d']

def writeItems : List Json → List Char
  | [] => []
  | [item] => write item
  | item :: next :: rest => write item ++ [','] ++ writeItems (next :: rest)

def writeMembers : List (String × Json) → List Char
  | [] => []
  | [(name, value)] => writeString name ++ [':'] ++ write value
  | (name, value) :: next :: rest =>
      writeString name ++ [':'] ++ write value ++ [',']
        ++ writeMembers (next :: rest)

end

def render (value : Json) : String := String.ofList value.write

end UsageForecast.Json
