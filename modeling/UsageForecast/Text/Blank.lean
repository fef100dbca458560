/-!
# Blank characters

The characters with the White_Space property of Unicode, and the removal of
blanks at the ends of a text.
-/

namespace UsageForecast.Text

/-- Whether a character is white space. -/
def isBlank (letter : Char) : Bool :=
  let code := letter.toNat
  (9 ≤ code && code ≤ 13) || code == 0x20 || code == 0x85 || code == 0xa0
    || code == 0x1680 || (0x2000 ≤ code && code ≤ 0x200a)
    || code == 0x2028 || code == 0x2029 || code == 0x202f
    || code == 0x205f || code == 0x3000

def trimStart (text : List Char) : List Char := text.dropWhile isBlank

def trim (text : List Char) : List Char :=
  (trimStart (trimStart text).reverse).reverse

end UsageForecast.Text
