import EventHub.Text.Split
import EventHub.Text.Utf8

/-!
Query strings of the form `name=value&…`. A plus stands for a blank, and a percent sign with two
hexadecimal digits for a byte of UTF-8; any other percent sign stands for itself.
-/

namespace EventHub.Http

def hexValue? (byte : UInt8) : Option Nat :=
  let value := byte.toNat
  if 0x30 ≤ value ∧ value ≤ 0x39 then some (value - 0x30)
  else if 0x41 ≤ value ∧ value ≤ 0x46 then some (value - 0x37)
  else if 0x61 ≤ value ∧ value ≤ 0x66 then some (value - 0x57)
  else none

def percentDecode : List UInt8 → List UInt8
  | [] => []
  | [first] => [first]
  | [first, second] => [first, second]
  | first :: second :: third :: rest =>
      if first = 0x25 then
        match hexValue? second, hexValue? third with
        | some high, some low => UInt8.ofNat (high * 16 + low) :: percentDecode rest
        | _, _ => first :: percentDecode (second :: third :: rest)
      else first :: percentDecode (second :: third :: rest)

def blankForPlus (char : Char) : Char :=
  if char = '+' then ' ' else char

def decodeComponent (text : List Char) : String :=
  String.ofList (Text.decode (percentDecode (Text.encode (text.map blankForPlus))))

/-- A name without an equals sign has an empty value. -/
def decodePair (text : List Char) : String × String :=
  match Text.splitFirst '=' text with
  | some (name, value) => (decodeComponent name, decodeComponent value)
  | none => (decodeComponent text, "")

/-- The pairs of a query in order; empty parts are skipped. -/
def queryPairs (query : List Char) : List (String × String) :=
  ((Text.splitAll '&' query).filter fun part => !part.isEmpty).map decodePair

end EventHub.Http
