import EventHub.Text.Digits

/-! Addresses of sockets: an IPv4 or an IPv6 address with the number of a service. -/

namespace EventHub

structure Ipv4 where
  first : UInt8
  second : UInt8
  third : UInt8
  fourth : UInt8
  deriving DecidableEq

structure Ipv6 where
  groups : List UInt16
  deriving DecidableEq

inductive SocketAddress where
  | v4 (host : Ipv4) (service : UInt16)
  /-- The zone is zero when none is given. -/
  | v6 (host : Ipv6) (zone : UInt32) (service : UInt16)
  deriving DecidableEq

namespace Ipv4

def text (host : Ipv4) : String :=
  ".".intercalate
    ([host.first, host.second, host.third, host.fourth].map fun octet => toString octet.toNat)

end Ipv4

namespace Ipv6

def groupText (group : UInt16) : String :=
  String.ofList (Nat.toDigits 16 group.toNat)

def plainText (groups : List UInt16) : String :=
  ":".intercalate (groups.map groupText)

/-- The IPv4 address that is mapped into the last two groups. -/
def mapped? (host : Ipv6) : Option Ipv4 :=
  match host.groups with
  | [0, 0, 0, 0, 0, 0xFFFF, high, low] =>
      some ⟨(high >>> 8).toUInt8, high.toUInt8, (low >>> 8).toUInt8, low.toUInt8⟩
  | _ => none

def zerosAhead (groups : List UInt16) : Nat :=
  (groups.takeWhile (· == 0)).length

/-- The place and the length of the longest run of zeros, the first of equals. -/
def longestRun (place : Nat) : List UInt16 → Nat × Nat
  | [] => (place, 0)
  | group :: rest =>
      let here := zerosAhead (group :: rest)
      let later := longestRun (place + 1) rest
      if later.2 ≤ here then (place, here) else later

/-- The longest run of two zeros or more is left out. -/
def text (host : Ipv6) : String :=
  match host.mapped? with
  | some inner => "::ffff:" ++ inner.text
  | none =>
      let (place, length) := longestRun 0 host.groups
      if length < 2 then plainText host.groups
      else
        plainText (host.groups.take place) ++ "::" ++
          plainText (host.groups.drop (place + length))

end Ipv6

namespace SocketAddress

def text : SocketAddress → String
  | v4 host service => host.text ++ ":" ++ toString service.toNat
  | v6 host zone service =>
      let zoneText := if zone = 0 then "" else "%" ++ toString zone.toNat
      "[" ++ host.text ++ zoneText ++ "]:" ++ toString service.toNat

end SocketAddress

end EventHub
