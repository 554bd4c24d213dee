import EventHub.Auth.TokenTable
import EventHub.Handshake.Params
import EventHub.Http.Upgrade
import EventHub.Hub.CloseReason

/-!
How a server answers a WebSocket handshake: with an ordinary response, with a socket that is
closed at once, or by letting the client in.
-/

namespace EventHub

inductive HandshakeVerdict (ν : Type) where
  | refuse (response : Http.Response)
  | closeWith (reason : CloseReason)
  /-- The client is let in, with the protocol version it gets or asks for. -/
  | welcome (identity : Identity) (version : ν)

namespace HandshakeVerdict

def bearerProtocol : String := "bearer"

/-- A client may offer its sub-protocols in several headers. -/
def offersBearer (request : Http.Request) : Bool :=
  (request.rawHeaders "sec-websocket-protocol").any fun offered =>
    (Text.splitAll ',' offered.toList).any fun entry =>
      Text.strip Text.isSpaceOrTab entry == bearerProtocol.toList

def switching (request : Http.Request) : Http.Response :=
  { Http.Response.bare 101 with
    subprotocol := if offersBearer request then some bearerProtocol else none }

def response {ν : Type} (request : Http.Request) : HandshakeVerdict ν → Http.Response
  | refuse response => response
  | closeWith _ | welcome _ _ => switching request

end HandshakeVerdict

namespace Credential

/-- The credential of a handshake; one in the query counts only if it is allowed there and the
headers have none. -/
def ofRequest (allowQueryToken : Bool) (request : Http.Request) (params : SocketParams) :
    Option Credential :=
  match extract (request.header? "authorization") (request.header? "sec-websocket-protocol") with
  | some credential => some credential
  | none => if allowQueryToken then params.accessToken.map Credential.mk else none

end Credential

end EventHub
