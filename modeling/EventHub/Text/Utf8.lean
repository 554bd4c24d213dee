/-!
UTF-8. Decoding never fails: every longest run of bytes that starts a character without
completing one becomes a replacement character, and so does a byte that starts none.
-/

namespace EventHub.Text

def encode (text : List Char) : List UInt8 :=
  text.flatMap String.utf8EncodeChar

/-- A character under way: its bits so far, the bytes to come, and the range of the next byte. -/
structure PartialChar where
  bits : Nat
  missing : Nat
  low : UInt8
  high : UInt8

namespace PartialChar

/-- The character that a leading byte starts. The range of the second byte leaves out forms
that are too long, surrogates, and values past the last character. -/
def ofLead? (byte : UInt8) : Option PartialChar :=
  let value := byte.toNat
  if 0xC2 ≤ value ∧ value ≤ 0xDF then some ⟨value - 0xC0, 1, 0x80, 0xBF⟩
  else if 0xE0 ≤ value ∧ value ≤ 0xEF then
    some ⟨value - 0xE0, 2, if value = 0xE0 then 0xA0 else 0x80, if value = 0xED then 0x9F else 0xBF⟩
  else if 0xF0 ≤ value ∧ value ≤ 0xF4 then
    some ⟨value - 0xF0, 3, if value = 0xF0 then 0x90 else 0x80, if value = 0xF4 then 0x8F else 0xBF⟩
  else none

def accepts (part : PartialChar) (byte : UInt8) : Bool :=
  part.low ≤ byte && byte ≤ part.high

def extend (part : PartialChar) (byte : UInt8) : PartialChar :=
  ⟨part.bits * 64 + byte.toNat % 64, part.missing - 1, 0x80, 0xBF⟩

end PartialChar

def replacement : Char := '\uFFFD'

/-- Reads a byte at the start of a character. -/
def decodeStart (byte : UInt8) : List Char × Option PartialChar :=
  if byte < 0x80 then ([Char.ofNat byte.toNat], none)
  else
    match PartialChar.ofLead? byte with
    | some part => ([], some part)
    | none => ([replacement], none)

/-- Reads one byte; gives the characters that are now certain. -/
def decodeByte (byte : UInt8) : Option PartialChar → List Char × Option PartialChar
  | none => decodeStart byte
  | some part =>
      if part.accepts byte then
        let next := part.extend byte
        if next.missing = 0 then ([Char.ofNat next.bits], none) else ([], some next)
      else
        let (chars, state) := decodeStart byte
        (replacement :: chars, state)

def decodeFrom : Option PartialChar → List UInt8 → List Char
  | none, [] => []
  | some _, [] => [replacement]
  | state, byte :: rest =>
      let (chars, next) := decodeByte byte state
      chars ++ decodeFrom next rest

def decode (bytes : List UInt8) : List Char :=
  decodeFrom none bytes

end EventHub.Text
