import UsageForecast.Text.Invisible

/-!
# Quoted text in messages

A text quoted in a message shows every character: quotes and backslashes are
escaped, common control characters have short escapes, and characters without
a shape of their own are written as their hexadecimal code.
-/

namespace UsageForecast.Text

def hexDigits (value : Nat) : List Char := Nat.toDigits 16 value

def quoteChar (letter : Char) : List Char :=
  if letter == '\"' then ['\\', '\"']
  else if letter == '\\' then ['\\', '\\']
  else if letter == '\n' then ['\\', 'n']
  else if letter == '\t' then ['\\', 't']
  else if letter == '\r' then ['\\', 'r']
  else if letter == '\x00' then ['\\', '0']
  else if isInvisible letter then
    ['\\', 'u', '\x7b'] ++ hexDigits letter.toNat ++ ['\x7d']
  else [letter]

/-- A text between quotes with its characters escaped. -/
def quote (text : String) : String :=
  String.ofList (['\"'] ++ text.toList.flatMap quoteChar ++ ['\"'])

end UsageForecast.Text
