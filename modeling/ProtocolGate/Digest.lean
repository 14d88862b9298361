import ProtocolGate.Text

/-!
SHA-256 of a byte string: the message is padded to blocks of 64 bytes, and every block is mixed
into eight words.
-/

namespace ProtocolGate.Digest

structure Words where
  a : UInt32
  b : UInt32
  c : UInt32
  d : UInt32
  e : UInt32
  f : UInt32
  g : UInt32
  h : UInt32

def Words.initial : Words where
  a := 0x6a09e667
  b := 0xbb67ae85
  c := 0x3c6ef372
  d := 0xa54ff53a
  e := 0x510e527f
  f := 0x9b05688c
  g := 0x1f83d9ab
  h := 0x5be0cd19

def roundConstants : List UInt32 :=
  [0x428a2f98, 0x71374491, 0xb5c0fbcf, 0xe9b5dba5, 0x3956c25b, 0x59f111f1, 0x923f82a4, 0xab1c5ed5,
    0xd807aa98, 0x12835b01, 0x243185be, 0x550c7dc3, 0x72be5d74, 0x80deb1fe, 0x9bdc06a7, 0xc19bf174,
    0xe49b69c1, 0xefbe4786, 0x0fc19dc6, 0x240ca1cc, 0x2de92c6f, 0x4a7484aa, 0x5cb0a9dc, 0x76f988da,
    0x983e5152, 0xa831c66d, 0xb00327c8, 0xbf597fc7, 0xc6e00bf3, 0xd5a79147, 0x06ca6351, 0x14292967,
    0x27b70a85, 0x2e1b2138, 0x4d2c6dfc, 0x53380d13, 0x650a7354, 0x766a0abb, 0x81c2c92e, 0x92722c85,
    0xa2bfe8a1, 0xa81a664b, 0xc24b8b70, 0xc76c51a3, 0xd192e819, 0xd6990624, 0xf40e3585, 0x106aa070,
    0x19a4c116, 0x1e376c08, 0x2748774c, 0x34b0bcb5, 0x391c0cb3, 0x4ed8aa4a, 0x5b9cca4f, 0x682e6ff3,
    0x748f82ee, 0x78a5636f, 0x84c87814, 0x8cc70208, 0x90befffa, 0xa4506ceb, 0xbef9a3f7, 0xc67178f2]

def rotate (word : UInt32) (count : UInt32) : UInt32 :=
  (word >>> count) ||| (word <<< (32 - count))

def wordOf (bytes : List UInt8) : UInt32 :=
  bytes.foldl (fun word byte => (word <<< 8) ||| byte.toUInt32) 0

/-- A list in parts of `size`; the last part may be shorter. -/
def partsOf (size : Nat) : Nat → List α → List (List α)
  | 0, _ => []
  | fuel + 1, items =>
    if items.isEmpty then [] else items.take size :: partsOf size fuel (items.drop size)

/-- A message with a closing bit, zeros, and its length in bits, in whole blocks. -/
def pad (message : List UInt8) : List UInt8 :=
  let zeros := (119 - message.length % 64) % 64
  let bits := 8 * message.length
  message ++ 0x80 :: List.replicate zeros 0 ++
    (List.range 8).map fun index => UInt8.ofNat (bits / Nat.pow 256 (7 - index))

def nextWord (latest : List UInt32) : UInt32 :=
  let at' := fun (index : Nat) => latest.getD index 0
  let two := at' 1
  let fifteen := at' 14
  let high := rotate two 17 ^^^ rotate two 19 ^^^ (two >>> 10)
  let low := rotate fifteen 7 ^^^ rotate fifteen 18 ^^^ (fifteen >>> 3)
  high + at' 6 + low + at' 15

def extend : Nat → List UInt32 → List UInt32
  | 0, latest => latest
  | count + 1, latest => extend count (nextWord latest :: latest)

def schedule (block : List UInt8) : List UInt32 :=
  (extend 48 ((partsOf 4 16 block).map wordOf).reverse).reverse

def Words.round (words : Words) (constant scheduled : UInt32) : Words :=
  let { a, b, c, d, e, f, g, h } := words
  let choice := (e &&& f) ^^^ (~~~e &&& g)
  let majority := (a &&& b) ^^^ (a &&& c) ^^^ (b &&& c)
  let first := h + (rotate e 6 ^^^ rotate e 11 ^^^ rotate e 25) + choice + constant + scheduled
  let second := (rotate a 2 ^^^ rotate a 13 ^^^ rotate a 22) + majority
  { a := first + second, b := a, c := b, d := c, e := d + first, f := e, g := f, h := g }

def Words.mix (words : Words) (block : List UInt8) : Words :=
  let mixed := (roundConstants.zip (schedule block)).foldl
    (fun words (constant, scheduled) => words.round constant scheduled) words
  { a := words.a + mixed.a, b := words.b + mixed.b, c := words.c + mixed.c, d := words.d + mixed.d
    e := words.e + mixed.e, f := words.f + mixed.f, g := words.g + mixed.g, h := words.h + mixed.h }

def sha256 (message : List UInt8) : Text :=
  let padded := pad message
  let { a, b, c, d, e, f, g, h } := (partsOf 64 padded.length padded).foldl Words.mix .initial
  [a, b, c, d, e, f, g, h].flatMap fun word => hexNumeral 8 word.toNat

def utf8 (text : Text) : List UInt8 :=
  (String.ofList text).toUTF8.toList

end ProtocolGate.Digest
