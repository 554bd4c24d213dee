import EventHub.Address.Basic

/-!
Reading socket addresses. The octets of an IPv4 address have no leading zeros; an IPv6 address may
leave out one run of zero groups and may end in an IPv4 address.
-/

namespace EventHub

/-- A number below `limit` at the start of a text, and the text after it. -/
def leadingNumber? (limit : Nat) (text : List Char) : Option (Nat × List Char) :=
  match Text.digits? (text.takeWhile Char.isDigit) with
  | some value => if value < limit then some (value, text.dropWhile Char.isDigit) else none
  | none => none

namespace Ipv4

def octet? (text : List Char) : Option (UInt8 × List Char) :=
  let digits := text.takeWhile Char.isDigit
  if 3 < digits.length || (1 < digits.length && digits.head? == some '0') then none
  else (leadingNumber? 256 text).map fun (value, rest) => (UInt8.ofNat value, rest)

def dottedOctet? : List Char → Option (UInt8 × List Char)
  | '.' :: rest => octet? rest
  | _ => none

def read? (text : List Char) : Option (Ipv4 × List Char) := do
  let (first, rest) ← octet? text
  let (second, rest) ← dottedOctet? rest
  let (third, rest) ← dottedOctet? rest
  let (fourth, rest) ← dottedOctet? rest
  some (⟨first, second, third, fourth⟩, rest)

def highGroup (host : Ipv4) : UInt16 :=
  host.first.toUInt16 * 256 + host.second.toUInt16

def lowGroup (host : Ipv4) : UInt16 :=
  host.third.toUInt16 * 256 + host.fourth.toUInt16

end Ipv4

namespace Ipv6

def group? (text : List Char) : Option (UInt16 × List Char) :=
  let digits := text.takeWhile fun char => (Text.hexDigit? char).isSome
  if digits.isEmpty || 4 < digits.length then none
  else
    (Text.inRadix? 16 digits).map fun value =>
      (UInt16.ofNat value, text.drop digits.length)

/-- What follows the colon that stands before every group but the first. -/
def afterColon? (isFirst : Bool) (text : List Char) : Option (List Char) :=
  if isFirst then some text
  else
    match text with
    | ':' :: rest => some rest
    | _ => none

structure Groups where
  groups : List UInt16
  /-- The last two came from an IPv4 address. -/
  endsInIpv4 : Bool
  rest : List Char

def readGroups (isFirst : Bool) : Nat → List Char → Groups
  | 0, text => { groups := [], endsInIpv4 := false, rest := text }
  | limit + 1, text =>
      let here := afterColon? isFirst text
      match (if limit = 0 then none else here.bind Ipv4.read?) with
      | some (host, rest) =>
          { groups := [host.highGroup, host.lowGroup], endsInIpv4 := true, rest }
      | none =>
          match here.bind group? with
          | some (group, rest) =>
              let more := readGroups false limit rest
              { more with groups := group :: more.groups }
          | none => { groups := [], endsInIpv4 := false, rest := text }

/-- The zeros that fill an address up between its two parts. -/
def filled (ahead behind : List UInt16) : Ipv6 :=
  ⟨ahead ++ List.replicate (8 - ahead.length - behind.length) 0 ++ behind⟩

def read? (text : List Char) : Option (Ipv6 × List Char) :=
  let ahead := readGroups true 8 text
  if ahead.groups.length = 8 then some (⟨ahead.groups⟩, ahead.rest)
  else if ahead.endsInIpv4 then none
  else
    match ahead.rest with
    | ':' :: ':' :: rest =>
        let behind := readGroups true (7 - ahead.groups.length) rest
        some (filled ahead.groups behind.groups, behind.rest)
    | _ => none

end Ipv6

namespace SocketAddress

/-- A colon and the number of a service, to the end. -/
def service? : List Char → Option UInt16
  | ':' :: rest =>
      match leadingNumber? UInt16.size rest with
      | some (value, []) => some (UInt16.ofNat value)
      | _ => none
  | _ => none

/-- The zone, if the text starts with one that is well-formed. -/
def zone (text : List Char) : UInt32 × List Char :=
  match text with
  | '%' :: rest =>
      match leadingNumber? UInt32.size rest with
      | some (value, after) => (UInt32.ofNat value, after)
      | none => (0, text)
  | _ => (0, text)

def readV4? (text : List Char) : Option SocketAddress := do
  let (host, rest) ← Ipv4.read? text
  some (v4 host (← service? rest))

def readV6? : List Char → Option SocketAddress
  | '[' :: inner => do
      let (host, rest) ← Ipv6.read? inner
      let (zone, rest) := zone rest
      match rest with
      | ']' :: after => some (v6 host zone (← service? after))
      | _ => none
  | _ => none

def ofText? (text : String) : Option SocketAddress :=
  (readV4? text.toList).or (readV6? text.toList)

end SocketAddress

end EventHub
