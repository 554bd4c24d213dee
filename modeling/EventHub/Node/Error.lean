import EventHub.Hub.Error
import EventHub.Http.Message

/-! What a node answers when a request cannot be served. -/

namespace EventHub

inductive ApiError where
  | badRequest (detail : String)
  | unsupportedProtocol (version : UInt32)
  | unauthorized (cause : AuthError)
  | hub (cause : HubError)
  deriving DecidableEq

namespace ApiError

def message : ApiError → String
  | badRequest detail => "bad request: " ++ detail
  | unsupportedProtocol version =>
      "unsupported protocol version: " ++ toString version.toNat
  | unauthorized cause => "unauthorized: " ++ cause.message
  | hub cause => cause.message

def status : ApiError → Nat
  | badRequest _ | unsupportedProtocol _ => 400
  | unauthorized (.missingScope _) => 403
  | unauthorized (.unavailable _) => 503
  | unauthorized _ => 401
  | hub .ingestFull | hub .ingestClosed | hub (.capacityExceeded _) => 503
  | hub _ => 500

def response (problem : ApiError) : Http.Response :=
  .error problem.status problem.message

end ApiError

end EventHub
