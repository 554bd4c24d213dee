import EventHub.Auth.Error

/-! What can go wrong in the hub, with the texts and the machine codes that clients see. -/

namespace EventHub

abbrev ConnectionId := String

inductive HubError where
  | authenticationFailed (cause : AuthError)
  | capacityExceeded (limit : Nat)
  | subscriptionLimitExceeded (limit : Nat)
  | clusterNotPermitted (cluster : String)
  | heartbeatTimeout
  | transport (detail : String)
  | malformedControlMessage (detail : String)
  | connectionNotFound (id : ConnectionId)
  | ingestClosed
  | ingestFull
  deriving DecidableEq

namespace HubError

def message : HubError → String
  | authenticationFailed cause => "authentication failed: " ++ cause.message
  | capacityExceeded limit =>
      "connection capacity exceeded: max " ++ toString limit ++ " connections"
  | subscriptionLimitExceeded limit =>
      "subscription limit exceeded: max " ++ toString limit ++ " subscriptions"
  | clusterNotPermitted cluster => "cluster not permitted: " ++ cluster
  | heartbeatTimeout => "heartbeat timeout"
  | transport detail => "transport error: " ++ detail
  | malformedControlMessage detail => "malformed control message: " ++ detail
  | connectionNotFound id => "connection not found: " ++ id
  | ingestClosed => "ingest channel closed"
  | ingestFull => "ingest channel full"

def code : HubError → String
  | authenticationFailed _ => "authentication_failed"
  | capacityExceeded _ => "capacity_exceeded"
  | subscriptionLimitExceeded _ => "subscription_limit"
  | clusterNotPermitted _ => "cluster_not_permitted"
  | heartbeatTimeout => "heartbeat_timeout"
  | transport _ => "transport_error"
  | malformedControlMessage _ => "malformed_message"
  | connectionNotFound _ => "connection_not_found"
  | ingestClosed | ingestFull => "ingest_unavailable"

end HubError

end EventHub
