import UsageForecast.Text.Quoted

/-!
# Digests of texts

The SHA-256 digest of the UTF-8 form of a text, in hexadecimal digits.  A
block is mixed into the state in 64 rounds; each round consumes the first word
of a window of sixteen and appends the word that the schedule prescribes.
-/

namespace UsageForecast.Digest

structure State where
  a : UInt32
  b : UInt32
  c : UInt32
  d : UInt32
  e : UInt32
  f : UInt32
  g : UInt32
  h : UInt32

/-- Rotate a word to the right by fewer than 32 bits. -/
def rotate (word count : UInt32) : UInt32 :=
  (word >>> count) ||| (word <<< (32 - count))

def start : State :=
  ⟨0x6a09e667, 0xbb67ae85, 0x3c6ef372, 0xa54ff53a,
    0x510e527f, 0x9b05688c, 0x1f83d9ab, 0x5be0cd19⟩

def constants : List UInt32 :=
  [0x428a2f98, 0x71374491, 0xb5c0fbcf, 0xe9b5dba5,
    0x3956c25b, 0x59f111f1, 0x923f82a4, 0xab1c5ed5,
    0xd807aa98, 0x12835b01, 0x243185be, 0x550c7dc3,
    0x72be5d74, 0x80deb1fe, 0x9bdc06a7, 0xc19bf174,
    0xe49b69c1, 0xefbe4786, 0x0fc19dc6, 0x240ca1cc,
    0x2de92c6f, 0x4a7484aa, 0x5cb0a9dc, 0x76f988da,
    0x983e5152, 0xa831c66d, 0xb00327c8, 0xbf597fc7,
    0xc6e00bf3, 0xd5a79147, 0x06ca6351, 0x14292967,
    0x27b70a85, 0x2e1b2138, 0x4d2c6dfc, 0x53380d13,
    0x650a7354, 0x766a0abb, 0x81c2c92e, 0x92722c85,
    0xa2bfe8a1, 0xa81a664b, 0xc24b8b70, 0xc76c51a3,
    0xd192e819, 0xd6990624, 0xf40e3585, 0x106aa070,
    0x19a4c116, 0x1e376c08, 0x2748774c, 0x34b0bcb5,
    0x391c0cb3, 0x4ed8aa4a, 0x5b9cca4f, 0x682e6ff3,
    0x748f82ee, 0x78a5636f, 0x84c87814, 0x8cc70208,
    0x90befffa, 0xa4506ceb, 0xbef9a3f7, 0xc67178f2]

/-- One round with a constant and a word of the schedule. -/
def round (state : State) (constant word : UInt32) : State :=
  let mixed :=
    rotate state.e 6 ^^^ rotate state.e 11 ^^^ rotate state.e 25
  let choice := (state.e &&& state.f) ^^^ (~~~state.e &&& state.g)
  let first := state.h + mixed + choice + constant + word
  let spread :=
    rotate state.a 2 ^^^ rotate state.a 13 ^^^ rotate state.a 22
  let majority := (state.a &&& state.b) ^^^ (state.a &&& state.c)
    ^^^ (state.b &&& state.c)
  ⟨first + (spread + majority), state.a, state.b, state.c,
    state.d + first, state.e, state.f, state.g⟩

/-- The word that follows a window of sixteen words. -/
def following (window : List UInt32) : UInt32 :=
  let early := window.getD 1 0
  let late := window.getD 14 0
  window.getD 0 0
    + (rotate early 7 ^^^ rotate early 18 ^^^ (early >>> 3))
    + window.getD 9 0
    + (rotate late 17 ^^^ rotate late 19 ^^^ (late >>> 10))

/-- One round for each constant, moving the window along the schedule. -/
def rounds (state : State) (window : List UInt32) : List UInt32 → State
  | [] => state
  | constant :: rest =>
      rounds (round state constant (window.getD 0 0))
        (window.drop 1 ++ [following window]) rest

def compress (state : State) (block : List UInt32) : State :=
  let mixed := rounds state block constants
  ⟨state.a + mixed.a, state.b + mixed.b, state.c + mixed.c,
    state.d + mixed.d, state.e + mixed.e, state.f + mixed.f,
    state.g + mixed.g, state.h + mixed.h⟩

/-- The bytes of a natural number, most significant first. -/
def bytesOf (count value : Nat) : List UInt8 :=
  (List.range count).map fun place =>
    UInt8.ofNat (value / Nat.pow 256 (count - 1 - place))

/-- A message with its end mark, filled up with zeros, and its length in
bits. -/
def pad (message : List UInt8) : List UInt8 :=
  let size := message.length
  message ++ [0x80] ++ List.replicate ((119 - size % 64) % 64) 0
    ++ bytesOf 8 (8 * size)

def words : List UInt8 → List UInt32
  | first :: second :: third :: fourth :: rest =>
      ((first.toUInt32 <<< 24) ||| (second.toUInt32 <<< 16)
        ||| (third.toUInt32 <<< 8) ||| fourth.toUInt32) :: words rest
  | _ => []

def absorb (state : State) (message : List UInt32) : State :=
  if message.isEmpty then
    state
  else
    absorb (compress state (message.take 16)) (message.drop 16)
termination_by message.length
decreasing_by
  rename_i nonempty
  have positive : 0 < message.length :=
    List.length_pos_iff.mpr fun equality => nonempty (by rw [equality]; rfl)
  rw [List.length_drop]
  omega

def State.words (state : State) : List UInt32 :=
  [state.a, state.b, state.c, state.d, state.e, state.f, state.g, state.h]

def wordDigits (word : UInt32) : List Char :=
  let digits := Text.hexDigits word.toNat
  List.replicate (8 - digits.length) '0' ++ digits

/-- The digest of a text in hexadecimal digits. -/
def hexadecimal (text : String) : String :=
  let final := absorb start (words (pad text.toUTF8.toList))
  String.ofList (final.words.flatMap wordDigits)

end UsageForecast.Digest
