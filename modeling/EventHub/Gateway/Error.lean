import EventHub.Auth.Error
import EventHub.Http.Message

/-! Why a gateway cannot serve a client. -/

namespace EventHub

inductive GatewayError where
  | unauthorized (cause : AuthError)
  | hubUnavailable (detail : String)
  /-- The hub answered the handshake with another status. -/
  | hubRejected (status : Nat)
  | invalidHeader (detail : String)
  deriving DecidableEq

namespace GatewayError

def message : GatewayError → String
  | unauthorized cause => "unauthorized: " ++ cause.message
  | hubUnavailable detail => "upstream unavailable: " ++ detail
  | hubRejected status => "upstream rejected handshake with status " ++ toString status
  | invalidHeader detail => "invalid forwarded header: " ++ detail

def status : GatewayError → Nat
  | unauthorized (.missingScope _) => 403
  | unauthorized (.unavailable _) => 503
  | unauthorized _ => 401
  | hubUnavailable _ | hubRejected _ => 502
  | invalidHeader _ => 500

def response (problem : GatewayError) : Http.Response :=
  .error problem.status problem.message

end GatewayError

end EventHub
