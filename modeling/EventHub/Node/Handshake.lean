import EventHub.Handshake.Verdict
import EventHub.Hub.Config
import EventHub.Node.Error

/-!
The node's side of a handshake. Behind a gateway that knows the proxy secret, the forwarded
identity is believed; every other client shows a credential of its own.
-/

namespace EventHub

structure HandshakePolicy where
  trustedProxySecret : Option String := none
  allowQueryToken : Bool := false
  deriving DecidableEq

namespace Identity

def headerName : String := "x-pulse-identity"

/-- The header that proves the identity comes from the gateway. -/
def secretHeaderName : String := "x-pulse-proxy-secret"

def reader (identity : Identity) : Except AuthError Identity :=
  (identity.requireScope readScope).map fun _ => identity

end Identity

namespace HandshakePolicy

def forwarded (expected presented : String) (request : Http.Request) :
    Except AuthError Identity :=
  if secretsMatch presented expected then
    match request.header? Identity.headerName with
    | some value => (Identity.ofHeader value).bind Identity.reader
    | none => .error .invalidCredential
  else .error .invalidCredential

def direct (policy : HandshakePolicy) (tokens : TokenTable) (now : Nat) (request : Http.Request)
    (params : SocketParams) : Except AuthError Identity :=
  match Credential.ofRequest policy.allowQueryToken request params with
  | some credential => (tokens.validate now credential).bind Identity.reader
  | none => .error .missingCredential

/-- The identity behind a handshake. A proxy secret that is shown decides alone. -/
def authenticate (policy : HandshakePolicy) (tokens : TokenTable) (now : Nat)
    (request : Http.Request) (params : SocketParams) : Except AuthError Identity :=
  match policy.trustedProxySecret, request.header? Identity.secretHeaderName with
  | some expected, some presented => forwarded expected presented request
  | _, _ => policy.direct tokens now request params

/-- Version and credential are checked before the upgrade; a credential that was presented and
rejected gets a socket that is closed at once. -/
def verdict (policy : HandshakePolicy) (tokens : TokenTable) (now : Nat)
    (request : Http.Request) : HandshakeVerdict UInt32 :=
  match SocketParams.ofQuery? request.query with
  | none => .refuse (.refusal 400 "Failed to deserialize query string")
  | some params =>
      let version := params.protocol.getD defaultProtocolVersion
      if !supportedProtocolVersions.contains version then
        .refuse (ApiError.unsupportedProtocol version).response
      else
        match policy.authenticate tokens now request params with
        | .error .missingCredential => .refuse (ApiError.unauthorized .missingCredential).response
        | .error (.unavailable detail) =>
            .refuse (ApiError.unauthorized (.unavailable detail)).response
        | outcome =>
            match request.upgradeProblem? with
            | some problem => .refuse problem.response
            | none =>
                match outcome with
                | .ok identity => .welcome identity version
                | .error _ => .closeWith .authenticationFailed

end HandshakePolicy

end EventHub
