/-!
Frames of the two legs of a relay. The client's leg gives a close its number; the hub's leg sorts
close codes by what they mean. Frames that keep a transport alive stay on their leg.
-/

namespace EventHub

inductive CloseCode where
  | normal
  | away
  | protocol
  | unsupported
  | status
  | abnormal
  | invalid
  | policy
  | size
  | extension
  | error
  | restart
  | again
  | tls
  | reserved (code : UInt16)
  | registered (code : UInt16)
  | applicationDefined (code : UInt16)
  | bad (code : UInt16)
  deriving DecidableEq

namespace CloseCode

def ofNumber (code : UInt16) : CloseCode :=
  match code.toNat with
  | 1000 => normal
  | 1001 => away
  | 1002 => protocol
  | 1003 => unsupported
  | 1005 => status
  | 1006 => abnormal
  | 1007 => invalid
  | 1008 => policy
  | 1009 => size
  | 1010 => extension
  | 1011 => error
  | 1012 => restart
  | 1013 => again
  | 1015 => tls
  | value =>
      if 1016 ≤ value ∧ value < 3000 then reserved code
      else if 3000 ≤ value ∧ value < 4000 then registered code
      else if 4000 ≤ value ∧ value < 5000 then applicationDefined code
      else bad code

def number : CloseCode → UInt16
  | normal => 1000
  | away => 1001
  | protocol => 1002
  | unsupported => 1003
  | status => 1005
  | abnormal => 1006
  | invalid => 1007
  | policy => 1008
  | size => 1009
  | extension => 1010
  | error => 1011
  | restart => 1012
  | again => 1013
  | tls => 1015
  | reserved code | registered code | applicationDefined code | bad code => code

end CloseCode

/-- A frame whose close codes are of type `κ`. -/
inductive Frame (κ : Type) where
  | text (content : String)
  | binary (data : List UInt8)
  | ping (data : List UInt8)
  | pong (data : List UInt8)
  | close (frame : Option (κ × String))
  deriving DecidableEq

abbrev ClientFrame : Type := Frame UInt16

abbrev HubFrame : Type := Frame CloseCode

/-- A frame for the other leg; the last one closes it. -/
structure Relayed (κ : Type) where
  frame : Frame κ
  last : Bool
  deriving DecidableEq

namespace Frame

variable {κ ν : Type}

def relayed? (code : κ → ν) : Frame κ → Option (Relayed ν)
  | text content => some { frame := text content, last := false }
  | binary data => some { frame := binary data, last := false }
  | close frame =>
      some { frame := close (frame.map fun (value, reason) => (code value, reason)), last := true }
  | ping _ | pong _ => none

def toHub? : ClientFrame → Option (Relayed CloseCode) :=
  relayed? CloseCode.ofNumber

def toClient? : HubFrame → Option (Relayed UInt16) :=
  relayed? CloseCode.number

end Frame

end EventHub
