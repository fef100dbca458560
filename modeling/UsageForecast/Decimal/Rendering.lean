import UsageForecast.Decimal.Basic

/-!
# The text of decimals, written

`Decimal.render` writes the digits of a decimal as they are: positionally
where the style says so, with an exponent otherwise.  The two styles of this
library are records: `dataStyle` for structured data, `plainStyle` for
messages and quantities.
-/

namespace UsageForecast

/-- How the digits of a decimal are laid out. -/
structure Decimal.Style where
  /-- Whether a leading digit worth this power of ten is written
  positionally. -/
  positional : Int → Bool
  /-- What ends a whole number that is written positionally. -/
  wholeEnding : List Char
  /-- What precedes an exponent that is not negative. -/
  exponentMark : List Char

namespace Decimal

/-- Numbers in data are positional from `10 ^ (-5)` up to below `10 ^ 16`
and always show that they are not integers. -/
def dataStyle : Style :=
  ⟨fun leading => -5 ≤ leading && leading < 16, ['.', '0'], ['e', '+']⟩

/-- Numbers in messages are positional and whole ones have no point. -/
def plainStyle : Style :=
  ⟨fun _ => true, [], ['e']⟩

/-- Digits with a point so that the first is worth `10 ^ leading`. -/
def layPositional (style : Style) (digits : List Char) (leading : Int) :
    List Char :=
  if leading < 0 then
    ['0', '.'] ++ List.replicate (-leading - 1).toNat '0' ++ digits
  else
    let wholeWidth := leading.toNat + 1
    if digits.length ≤ wholeWidth then
      digits ++ List.replicate (wholeWidth - digits.length) '0'
        ++ style.wholeEnding
    else
      digits.take wholeWidth ++ ['.'] ++ digits.drop wholeWidth

/-- Digits with a point after the first and an exponent. -/
def layScientific (style : Style) (digits : List Char) (leading : Int) :
    List Char :=
  let fraction := digits.drop 1
  digits.take 1 ++ (if fraction.isEmpty then [] else '.' :: fraction)
    ++ (if leading < 0 then ['e', '-'] else style.exponentMark)
    ++ digitChars leading.natAbs

/-- The text of a decimal, without its trailing zeros. -/
def render (style : Style) (value : Decimal) : List Char :=
  let reduced := value.reduce
  let digits := digitChars reduced.digits
  let leading : Int := reduced.exponent + digits.length - 1
  (if reduced.negative then ['-'] else [])
    ++ (if style.positional leading then layPositional style digits leading
        else layScientific style digits leading)

end Decimal

def Numeral.display : Numeral → String
  | .decimal value => String.ofList (value.render Decimal.plainStyle)
  | .infinite false => "inf"
  | .infinite true => "-inf"
  | .undefined => "NaN"

end UsageForecast
