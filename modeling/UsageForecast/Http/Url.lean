import UsageForecast.Decimal.Basic

/-!
# Addresses of servers

The part of the address syntax that decides whether a back end can be asked
at all: an address has a scheme; the usual schemes need a host with an
optional port; and an address whose path does not start with a slash has no
place for relative paths.
-/

namespace UsageForecast

inductive Url.Fault where
  | noScheme
  | emptyHost
  | port
  | domain
  | addressV4
  | addressV6
deriving DecidableEq, Repr, Inhabited

def Url.Fault.message : Url.Fault → String
  | .noScheme => "relative URL without a base"
  | .emptyHost => "empty host"
  | .port => "invalid port number"
  | .domain => "invalid international domain name"
  | .addressV4 => "invalid IPv4 address"
  | .addressV6 => "invalid IPv6 address"

/-- The parts of an address that requests need. -/
structure Url where
  scheme : String
  host : String
  port : Option Nat
  path : String
  /-- Whether relative paths can be resolved against the address. -/
  isBase : Bool
deriving DecidableEq, Repr, Inhabited

namespace Url

/-- Whether a letter is a control character of the ASCII range or a
space. -/
def isMargin (letter : Char) : Bool := letter.val ≤ 0x20

/-- Whether a letter is dropped wherever it stands. -/
def isDropped (letter : Char) : Bool :=
  letter == '\t' || letter == '\n' || letter == '\r'

def tidy (text : List Char) : List Char :=
  let trimmed := text.dropWhile isMargin
  ((trimmed.reverse.dropWhile isMargin).reverse).filter fun letter =>
    !isDropped letter

def isSchemeLetter (letter : Char) : Bool :=
  letter.isAlphanum || letter == '+' || letter == '-' || letter == '.'

def takeScheme? (text : List Char) : Option (String × List Char) :=
  match text.span isSchemeLetter with
  | (first :: name, ':' :: rest) =>
      if first.isAlpha then
        some (String.ofList ((first :: name).map Char.toLower), rest)
      else
        none
  | _ => none

/-- The schemes whose addresses name a host. -/
def hostSchemes : List String := ["http", "https", "ws", "wss", "ftp"]

/-- The value of a digit in a base, at most sixteen. -/
def digit? (base : Nat) (letter : Char) : Option Nat :=
  let value :=
    if letter.isDigit then letter.toNat - '0'.toNat
    else if 'a' ≤ letter.toLower ∧ letter.toLower ≤ 'f' then
      letter.toLower.toNat - 'a'.toNat + 10
    else base
  if value < base then some value else none

def number? (base : Nat) (digits : List Char) : Option Nat :=
  digits.foldlM (fun value letter => do
    return value * base + (← digit? base letter)) 0

/-- Undo percent encoding, byte for byte as letters. -/
def percentDecode : List Char → List Char
  | '%' :: high :: low :: rest =>
      match number? 16 [high, low] with
      | some value => Char.ofNat value :: percentDecode rest
      | none => '%' :: percentDecode (high :: low :: rest)
  | letter :: rest => letter :: percentDecode rest
  | [] => []

def pieces (separator : Char) (text : List Char) : List (List Char) :=
  text.splitOnP fun letter => letter == separator

/-- A part of a numeric host: decimal, octal after a zero, hexadecimal after
`0x`. -/
def hostNumber? : List Char → Option Nat
  | [] => none
  | '0' :: mark :: digits =>
      if mark == 'x' || mark == 'X' then number? 16 digits
      else number? 8 (mark :: digits)
  | digits => number? 10 digits

/-- The parts of a dotted host; one empty part at the end does not count. -/
def hostParts (host : List Char) : List (List Char) :=
  let parts := pieces '.' host
  match parts.reverse with
  | [] :: earlier@(_ :: _) => earlier.reverse
  | _ => parts

/-- Whether a host ends in a number and is therefore a numeric address. -/
def isNumericHost (host : List Char) : Bool :=
  match (hostParts host).reverse with
  | last :: _ =>
      (!last.isEmpty && last.all Char.isDigit) || (hostNumber? last).isSome
  | [] => false

/-- Whether numbers form a numeric address: all but the last fit a byte, and
the last fits what is left. -/
def isAddressV4 (numbers : List Nat) : Bool :=
  match numbers.reverse with
  | [] => false
  | last :: earlier =>
      earlier.length < 4 && earlier.all (· < 256)
        && last < Nat.pow 256 (4 - earlier.length)

/-- Whether a text is a part of a dotted address as it is written inside a
bracketed one. -/
def isPlainByte (part : List Char) : Bool :=
  (part == ['0'] || part.head?.any fun letter => letter != '0')
    && (number? 10 part).any (· < 256)

/-- How many groups a piece of a bracketed address stands for; the last one
may be dotted. -/
def groupCount? (last : Bool) (piece : List Char) : Option Nat :=
  if !piece.isEmpty && piece.length ≤ 4 && (number? 16 piece).isSome then
    some 1
  else if last then
    let parts := pieces '.' piece
    if parts.length = 4 ∧ parts.all isPlainByte then some 2 else none
  else
    none

def groupsOf? (final : Bool) : List (List Char) → Option Nat
  | [] => some 0
  | [piece] => groupCount? final piece
  | piece :: rest => do
      return (← groupCount? false piece) + (← groupsOf? final rest)

/-- The text on both sides of the first double colon. -/
def splitGap? : List Char → Option (List Char × List Char)
  | ':' :: ':' :: rest => some ([], rest)
  | letter :: rest =>
      (splitGap? rest).map fun (before, after) => (letter :: before, after)
  | [] => none

/-- How many groups a part of a bracketed address without a gap has. -/
def runLength? (final : Bool) (text : List Char) : Option Nat :=
  if text.isEmpty then some 0 else groupsOf? final (pieces ':' text)

/-- Whether a text is a bracketed address: eight groups, or fewer with one
gap. -/
def isAddressV6 (text : List Char) : Bool :=
  match splitGap? text with
  | none => runLength? true text == some 8
  | some (before, after) =>
      match runLength? false before, runLength? true after with
      | some left, some right => left + right < 8
      | _, _ => false

def isForbidden (letter : Char) : Bool :=
  letter.val ≤ 0x20 || letter.val == 0x7F
    || "#/:<>?@[\\]^|%".toList.contains letter

def readHost (text : List Char) : Except Fault String :=
  match text with
  | '[' :: rest =>
      match rest.reverse with
      | ']' :: inner =>
          if isAddressV6 inner.reverse then .ok (String.ofList text)
          else .error .addressV6
      | _ => .error .addressV6
  | _ =>
      let name := (percentDecode text).map Char.toLower
      if name.isEmpty then .error .emptyHost
      else if name.any isForbidden then .error .domain
      else if isNumericHost name then
        match (hostParts name).mapM hostNumber? with
        | some numbers =>
            if isAddressV4 numbers then .ok (String.ofList name)
            else .error .addressV4
        | none => .error .addressV4
      else .ok (String.ofList name)

/-- Read the host of an address of another scheme, which may be empty. -/
def readPlainHost (text : List Char) : Except Fault String :=
  match text with
  | [] => .ok ""
  | '[' :: _ => readHost text
  | _ =>
      if text.any fun letter => letter != '%' && isForbidden letter then
        .error .domain
      else
        .ok (String.ofList text)

/-- Split off what comes before the last `@`. -/
def dropUser (text : List Char) : List Char :=
  (text.reverse.takeWhile fun letter => letter != '@').reverse

/-- Split a host and a port at the last colon outside brackets. -/
def splitPort (text : List Char) : List Char × List Char :=
  let (after, before) :=
    text.reverse.span fun letter => letter != ':' && letter != ']'
  match before with
  | ':' :: host => (host.reverse, after.reverse)
  | _ => (text, [])

/-- Read a port; an empty one is the usual port of the scheme. -/
def readPort (text : List Char) : Except Fault (Option Nat) :=
  if text.isEmpty then .ok none
  else
    match number? 10 text with
    | some port => if port ≤ 65535 then .ok (some port) else .error .port
    | none => .error .port

def endsHost (special : Bool) (letter : Char) : Bool :=
  letter == '/' || letter == '?' || letter == '#'
    || (special && letter == '\\')

def isHere (segment : List Char) : Bool :=
  let text := String.ofList (segment.map Char.toLower)
  text == "." || text == "%2e"

def isAbove (segment : List Char) : Bool :=
  let text := String.ofList (segment.map Char.toLower)
  text == ".." || text == ".%2e" || text == "%2e." || text == "%2e%2e"

def percentEncode (byte : UInt8) : List Char :=
  let digit (value : Nat) : Char := (Nat.toDigits 16 value).headD '0'
  ['%', (digit (byte.toNat / 16)).toUpper, (digit (byte.toNat % 16)).toUpper]

def encodeLetter (letter : Char) : List Char :=
  if letter.val ≤ 0x20 || letter.val ≥ 0x7F
      || "\"#<>?^`\x7b\x7d".toList.contains letter then
    (String.singleton letter).toUTF8.toList.flatMap percentEncode
  else
    [letter]

/-- The segments of a path with the places resolved, last first. -/
def resolve (places : List (List Char)) : List (List Char) → List (List Char)
  | [] => places
  | [segment] =>
      if isAbove segment then [] :: places.drop 1
      else if isHere segment then [] :: places
      else segment :: places
  | segment :: rest =>
      if isAbove segment then resolve (places.drop 1) rest
      else if isHere segment then resolve places rest
      else resolve (segment :: places) rest

/-- The path that follows the host, without query and fragment. -/
def readPath (special : Bool) (text : List Char) : String :=
  let path := text.takeWhile fun letter => letter != '?' && letter != '#'
  let slashed := path.map fun letter =>
    if special && letter == '\\' then '/' else letter
  let segments :=
    match slashed with
    | '/' :: rest => pieces '/' rest
    | rest => pieces '/' rest
  let resolved := (resolve [] segments).reverse
  String.join (resolved.map fun segment =>
    String.ofList ('/' :: segment.flatMap encodeLetter))

/-- Read what follows the two slashes of an address. -/
def readAuthority (scheme : String) (special : Bool) (text : List Char) :
    Except Fault Url := do
  let (authority, rest) := text.span fun letter => !endsHost special letter
  let (hostText, portText) := splitPort (dropUser authority)
  let host ← if special then readHost hostText else readPlainHost hostText
  let port ← readPort portText
  let path :=
    if !special && rest.isEmpty then "" else readPath special rest
  return ⟨scheme, host, port, path, true⟩

def isSlash (letter : Char) : Bool := letter == '/' || letter == '\\'

def parse (text : String) : Except Fault Url :=
  match takeScheme? (tidy text.toList) with
  | none => .error .noScheme
  | some (scheme, rest) =>
      if hostSchemes.contains scheme then
        readAuthority scheme true (rest.dropWhile isSlash)
      else if scheme == "file" then
        .ok ⟨scheme, "", none, readPath true (rest.dropWhile isSlash), true⟩
      else
        match rest with
        | '/' :: '/' :: authority => readAuthority scheme false authority
        | '/' :: _ => .ok ⟨scheme, "", none, readPath false rest, true⟩
        | _ => .ok ⟨scheme, "", none, String.ofList rest, false⟩

/-- The path of a relative path below the path of an address. -/
def below (url : Url) (relative : String) : String :=
  if url.path.endsWith "/" then String.join [url.path, relative]
  else String.join [url.path, "/", relative]

end Url

end UsageForecast
