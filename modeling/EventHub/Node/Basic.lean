import EventHub.Live.Operations
import EventHub.Metrics.Basic
import EventHub.Node.Handshake

/-! A node: one hub served over HTTP. -/

namespace EventHub

structure Node where
  live : LiveHub
  tokens : TokenTable := ∅
  policy : HandshakePolicy := {}
  requests : Metrics := Metrics.start
  ready : Bool := false
  /-- The time by which tokens expire, in seconds. -/
  now : Nat
  uptime : Nat := 0

namespace Node

def metrics (node : Node) : Metrics :=
  node.requests.withReports node.live.hub.reports

def verdict (node : Node) (request : Http.Request) : HandshakeVerdict UInt32 :=
  node.policy.verdict node.tokens node.now request

/-- The caller behind a request that needs the admin scope; only a header can show it. -/
def requireAdmin (node : Node) (request : Http.Request) : Except ApiError Identity :=
  match (request.header? "authorization").bind Credential.ofAuthorization with
  | none => .error (.unauthorized .missingCredential)
  | some credential =>
      match (node.tokens.validate node.now credential).bind fun identity =>
          (identity.requireScope Identity.adminScope).map fun _ => identity with
      | .ok identity => .ok identity
      | .error cause => .error (.unauthorized cause)

end Node

end EventHub
