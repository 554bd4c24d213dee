import EventHub.Gateway.Error
import EventHub.Node.Handshake

/-!
The gateway's way to the hub: a handshake that carries the identity of the client and the secret
both sides share.
-/

namespace EventHub

structure HubLink where
  url : String
  proxySecret : String
  /-- In milliseconds. -/
  connectTimeout : Nat := 5000
  deriving DecidableEq

inductive DialOutcome where
  | opened
  /-- The other side answered, but not with a WebSocket. -/
  | rejected (status : Nat)
  | failed (detail : String)
  deriving DecidableEq

abbrev Network : Type := Http.Request → DialOutcome

namespace HubLink

/-- A header value takes any character but control characters. -/
def isHeaderValue (text : String) : Bool :=
  text.toList.all fun char => char == '\t' || (0x20 ≤ char.toNat && char.toNat ≠ 0x7F)

def urlFor (link : HubLink) : Option UInt32 → String
  | some version => link.url ++ "?protocol=" ++ toString version.toNat
  | none => link.url

def handshakeHeaders (link : HubLink) (host : String) (identity : Identity) :
    List (String × String) :=
  [("host", host), ("connection", "Upgrade"), ("upgrade", "websocket"),
    ("sec-websocket-version", "13"), ("sec-websocket-key", "dGhlIHNhbXBsZSBub25jZQ=="),
    (Identity.headerName, identity.toHeader), (Identity.secretHeaderName, link.proxySecret)]

/-- The handshake for a client; its target must name a host. -/
def handshake (link : HubLink) (identity : Identity) (version : Option UInt32) :
    Except GatewayError (Http.Uri × Http.Request) :=
  let target := (Http.Uri.parse? (link.urlFor version)).bind fun uri =>
    uri.host?.map fun host => (uri, host)
  match target with
  | none => .error (.hubUnavailable "invalid url")
  | some (uri, host) =>
      if isHeaderValue identity.toHeader && isHeaderValue link.proxySecret then
        .ok (uri,
          { method := "GET"
            path := uri.sentPath
            query := uri.query
            headers := link.handshakeHeaders host identity
            upgradable := true })
      else .error (.invalidHeader "failed to parse header value")

def hasSocketScheme (uri : Http.Uri) : Bool :=
  uri.scheme == some "ws" || uri.scheme == some "wss"

/-- A value that is set may still be one that cannot be sent. -/
def canSend (request : Http.Request) : Bool :=
  request.headers.all fun header => header.2.toList.all Http.Request.isPlain

def connect (link : HubLink) (network : Network) (identity : Identity)
    (version : Option UInt32) : Except GatewayError Unit := do
  let (uri, request) ← link.handshake identity version
  if !hasSocketScheme uri then .error (.hubUnavailable "url scheme not supported")
  else if !canSend request then .error (.hubUnavailable "header value is not text")
  else
    match network request with
    | .opened => .ok ()
    | .rejected status => .error (.hubRejected status)
    | .failed detail => .error (.hubUnavailable detail)

end HubLink

end EventHub
