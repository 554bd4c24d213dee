import EventHub.Http.Query
import EventHub.Text.Digits

/-! What a client may say in the query of a WebSocket handshake. -/

namespace EventHub

structure SocketParams where
  protocol : Option UInt32 := none
  accessToken : Option String := none
  deriving DecidableEq

namespace SocketParams

/-- Decimal digits, after a plus sign or not, within 32 bits. -/
def version? (text : String) : Option UInt32 :=
  match Text.natural? text.toList with
  | some value => if value < UInt32.size then some (UInt32.ofNat value) else none
  | none => none

/-- Takes the known parameters; each may be given once. -/
def ofPairs? : List (String × String) → Option SocketParams
  | [] => some {}
  | (name, value) :: rest => do
      let params ← ofPairs? rest
      if name = "protocol" then
        if params.protocol.isSome then none
        else (version? value).map fun version => { params with protocol := some version }
      else if name = "access_token" then
        if params.accessToken.isSome then none else some { params with accessToken := some value }
      else some params

def ofQuery? (query : Option String) : Option SocketParams :=
  ofPairs? (Http.queryPairs (query.getD "").toList)

end SocketParams

end EventHub
