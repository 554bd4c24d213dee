/-!
The SHA-256 digest of a byte string (FIPS 180-4): the message is padded to whole blocks of
64 bytes, and each block is mixed into eight 32-bit words by 64 rounds.
-/

namespace EventHub

abbrev Digest := List UInt8

namespace Digest

namespace Sha256

def roundConstants : List UInt32 :=
  [0x428a2f98, 0x71374491, 0xb5c0fbcf, 0xe9b5dba5, 0x3956c25b, 0x59f111f1, 0x923f82a4,
    0xab1c5ed5, 0xd807aa98, 0x12835b01, 0x243185be, 0x550c7dc3, 0x72be5d74, 0x80deb1fe,
    0x9bdc06a7, 0xc19bf174, 0xe49b69c1, 0xefbe4786, 0x0fc19dc6, 0x240ca1cc, 0x2de92c6f,
    0x4a7484aa, 0x5cb0a9dc, 0x76f988da, 0x983e5152, 0xa831c66d, 0xb00327c8, 0xbf597fc7,
    0xc6e00bf3, 0xd5a79147, 0x06ca6351, 0x14292967, 0x27b70a85, 0x2e1b2138, 0x4d2c6dfc,
    0x53380d13, 0x650a7354, 0x766a0abb, 0x81c2c92e, 0x92722c85, 0xa2bfe8a1, 0xa81a664b,
    0xc24b8b70, 0xc76c51a3, 0xd192e819, 0xd6990624, 0xf40e3585, 0x106aa070, 0x19a4c116,
    0x1e376c08, 0x2748774c, 0x34b0bcb5, 0x391c0cb3, 0x4ed8aa4a, 0x5b9cca4f, 0x682e6ff3,
    0x748f82ee, 0x78a5636f, 0x84c87814, 0x8cc70208, 0x90befffa, 0xa4506ceb, 0xbef9a3f7,
    0xc67178f2]

structure State where
  a : UInt32
  b : UInt32
  c : UInt32
  d : UInt32
  e : UInt32
  f : UInt32
  g : UInt32
  h : UInt32

def initial : State where
  a := 0x6a09e667
  b := 0xbb67ae85
  c := 0x3c6ef372
  d := 0xa54ff53a
  e := 0x510e527f
  f := 0x9b05688c
  g := 0x1f83d9ab
  h := 0x5be0cd19

def rotateRight (word : UInt32) (count : UInt32) : UInt32 :=
  (word >>> count) ||| (word <<< (32 - count))

def bigEndian (value : Nat) : Nat → List UInt8
  | 0 => []
  | count + 1 => UInt8.ofNat (value / Nat.pow 256 count) :: bigEndian value count

/-- One bit, zeros, and the length in bits, up to a whole number of blocks. -/
def pad (message : List UInt8) : List UInt8 :=
  let zeros := (119 - message.length % 64) % 64
  message ++ 0x80 :: List.replicate zeros 0 ++ bigEndian (message.length * 8) 8

def wordOf (bytes : List UInt8) : UInt32 :=
  bytes.foldl (fun word byte => (word <<< 8) ||| byte.toUInt32) 0

/-- Cuts a list into pieces of `size`; the fuel bounds the number of pieces. -/
def pieces {α : Type} (size : Nat) : Nat → List α → List (List α)
  | 0, _ => []
  | _ + 1, [] => []
  | fuel + 1, items => items.take size :: pieces size fuel (items.drop size)

/-- The next word of the schedule from the sixteen before it, latest first. -/
def nextWord (recent : List UInt32) : UInt32 :=
  let early := recent.getD 14 0
  let late := recent.getD 1 0
  let low := rotateRight early 7 ^^^ rotateRight early 18 ^^^ (early >>> 3)
  let high := rotateRight late 17 ^^^ rotateRight late 19 ^^^ (late >>> 10)
  recent.getD 15 0 + low + recent.getD 6 0 + high

def extendSchedule : Nat → List UInt32 → List UInt32
  | 0, words => words
  | count + 1, words => extendSchedule count (nextWord words :: words)

def schedule (block : List UInt8) : List UInt32 :=
  (extendSchedule 48 ((pieces 4 16 block).map wordOf).reverse).reverse

def mix (state : State) (input : UInt32 × UInt32) : State :=
  let sum := rotateRight state.e 6 ^^^ rotateRight state.e 11 ^^^ rotateRight state.e 25
  let choice := (state.e &&& state.f) ^^^ ((~~~ state.e) &&& state.g)
  let first := state.h + sum + choice + input.1 + input.2
  let turn := rotateRight state.a 2 ^^^ rotateRight state.a 13 ^^^ rotateRight state.a 22
  let majority :=
    (state.a &&& state.b) ^^^ (state.a &&& state.c) ^^^ (state.b &&& state.c)
  { a := first + (turn + majority)
    b := state.a
    c := state.b
    d := state.c
    e := state.d + first
    f := state.e
    g := state.f
    h := state.g }

def absorb (state : State) (block : List UInt8) : State :=
  let mixed := (roundConstants.zip (schedule block)).foldl mix state
  { a := state.a + mixed.a
    b := state.b + mixed.b
    c := state.c + mixed.c
    d := state.d + mixed.d
    e := state.e + mixed.e
    f := state.f + mixed.f
    g := state.g + mixed.g
    h := state.h + mixed.h }

def State.words (state : State) : List UInt32 :=
  [state.a, state.b, state.c, state.d, state.e, state.f, state.g, state.h]

end Sha256

def sha256 (message : List UInt8) : Digest :=
  let padded := Sha256.pad message
  let final := (Sha256.pieces 64 (padded.length / 64 + 1) padded).foldl Sha256.absorb
    Sha256.initial
  final.words.flatMap fun word => Sha256.bigEndian word.toNat 4

def ofText (text : String) : Digest :=
  sha256 text.toUTF8.toList

/-- Compares two digests without stopping at the first difference. -/
def sameDigest (left right : Digest) : Bool :=
  (left.zip right).foldl (fun difference pair => difference ||| (pair.1 ^^^ pair.2))
    (0 : UInt8) == 0

theorem length_bigEndian (value count : Nat) : (Sha256.bigEndian value count).length = count := by
  induction count with
  | zero => rfl
  | succ count ih => simp [Sha256.bigEndian, ih]

theorem length_sha256 (message : List UInt8) : (sha256 message).length = 32 := by
  simp [sha256, Sha256.State.words, length_bigEndian]

/-- The first example of the standard. -/
example : ofText "abc" =
    [0xba, 0x78, 0x16, 0xbf, 0x8f, 0x01, 0xcf, 0xea, 0x41, 0x41, 0x40, 0xde, 0x5d, 0xae,
      0x22, 0x23, 0xb0, 0x03, 0x61, 0xa3, 0x96, 0x17, 0x7a, 0x9c, 0xb4, 0x10, 0xff, 0x61,
      0xf2, 0x00, 0x15, 0xad] := by
  decide +kernel

end Digest

end EventHub
