import EventHub.Gateway.HubLink
import EventHub.Relay.Basic

/-!
A gateway: it checks a client's credential itself, opens a leg to the hub in the client's name,
and relays between the two.
-/

namespace EventHub

structure Gateway where
  tokens : TokenTable := ∅
  allowQueryToken : Bool := false
  link : HubLink
  /-- The time by which tokens expire, in seconds. -/
  now : Nat
  relays : List Relay := []

inductive GatewaySocket where
  | closed (reason : CloseReason)
  /-- The place of the client's relay among those opened. -/
  | relayed (place : Nat)
  deriving DecidableEq

namespace Gateway

def identify (gateway : Gateway) (credential : Credential) : Except AuthError Identity :=
  (gateway.tokens.validate gateway.now credential).bind fun identity =>
    (identity.requireScope Identity.readScope).map fun _ => identity

/-- The gateway looks at no protocol version; the hub does. -/
def verdict (gateway : Gateway) (request : Http.Request) : HandshakeVerdict (Option UInt32) :=
  match SocketParams.ofQuery? request.query with
  | none => .refuse (.refusal 400 "Failed to deserialize query string")
  | some params =>
      match Credential.ofRequest gateway.allowQueryToken request params with
      | none => .refuse (GatewayError.unauthorized .missingCredential).response
      | some credential =>
          match gateway.identify credential with
          | .error (.unavailable detail) =>
              .refuse (GatewayError.unauthorized (.unavailable detail)).response
          | outcome =>
              match request.upgradeProblem? with
              | some problem => .refuse problem.response
              | none =>
                  match outcome with
                  | .ok identity => .welcome identity params.protocol
                  | .error _ => .closeWith .authenticationFailed

def openRelays (gateway : Gateway) : Nat :=
  (gateway.relays.filter fun relay => !relay.isOver).length

def liveness (gateway : Gateway) : Http.Response :=
  .ofJson 200
    (.record
      [("status", .text "up"), ("relays", .natural (UInt64.ofNat gateway.openRelays))])

/-- Answers a request other than a handshake that succeeds. -/
def respond (gateway : Gateway) (request : Http.Request) : Http.Response :=
  let answer (response : Http.Response) : Http.Response :=
    if request.method = "GET" || request.method = "HEAD" then response.forMethod request.method
    else .methodNotAllowed
  if request.path = "/ws" then answer ((gateway.verdict request).response request)
  else if request.path = "/health/live" then answer gateway.liveness
  else .notFound

/-- Opens the relay of a client that was let in; without a hub the client is closed. -/
def openRelay (gateway : Gateway) (network : Network) (identity : Identity)
    (version : Option UInt32) : Gateway × GatewaySocket :=
  match gateway.link.connect network identity version with
  | .ok () =>
      ({ gateway with relays := gateway.relays ++ [{}] }, .relayed gateway.relays.length)
  | .error _ => (gateway, .closed .serverUnavailable)

def connect (gateway : Gateway) (network : Network) (request : Http.Request) :
    Gateway × Http.Response × Option GatewaySocket :=
  let response := gateway.respond request
  if request.path ≠ "/ws" then (gateway, response, none)
  else
    match gateway.verdict request with
    | .refuse _ => (gateway, response, none)
    | .closeWith reason => (gateway, response, some (.closed reason))
    | .welcome identity version =>
        let (next, socket) := gateway.openRelay network identity version
        (next, response, some socket)

def framesFor (gateway : Gateway) : GatewaySocket → List ClientFrame × Bool
  | .closed reason => ([reason.frame.toFrame], true)
  | .relayed place =>
      match gateway.relays[place]? with
      | some relay => (relay.framesToClient, relay.isOver)
      | none => ([], true)

def relayStep (gateway : Gateway) (place : Nat) (event : RelayEvent) : Gateway :=
  { gateway with relays := gateway.relays.modify place (·.step event) }

/-- Tells every relay to stop; says whether all have ended by the time `farewells` sinks have
answered and let themselves be closed. -/
def shutdown (gateway : Gateway) (farewells : Nat → Option Bool) : Gateway × Bool :=
  let relays := gateway.relays.mapIdx fun place relay =>
    match farewells place with
    | some taken => relay.steps [.shutdown, .farewell taken, .closed, .closed]
    | none => relay.step .shutdown
  ({ gateway with relays }, relays.all Relay.isOver)

end Gateway

end EventHub
