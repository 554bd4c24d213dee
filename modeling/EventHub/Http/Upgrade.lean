import EventHub.Http.Message

/-! The header set that asks for a WebSocket. -/

namespace EventHub.Http

inductive UpgradeProblem where
  | method
  | connection
  | upgrade
  | key
  | version
  | transport
  deriving DecidableEq

namespace UpgradeProblem

def status : UpgradeProblem → Nat
  | method => 405
  | connection | upgrade | key | version => 400
  | transport => 426

def reason : UpgradeProblem → String
  | method => "Request method must be GET"
  | connection => "Connection header did not include 'upgrade'"
  | upgrade => "`Upgrade` header did not include 'websocket'"
  | key => "`Sec-WebSocket-Key` header missing"
  | version => "`Sec-WebSocket-Version` header did not include '13'"
  | transport => "WebSocket request couldn't be upgraded since no upgrade state was present"

def response (problem : UpgradeProblem) : Response :=
  .refusal problem.status problem.reason

end UpgradeProblem

namespace Request

def headerIs (request : Request) (name value : String) : Bool :=
  (request.rawHeader? name).any fun present => Text.lowerString present == value

def containsText (needle : List Char) : List Char → Bool
  | [] => needle.isEmpty
  | char :: rest => needle.isPrefixOf (char :: rest) || containsText needle rest

def headerMentions (request : Request) (name value : String) : Bool :=
  (request.rawHeader? name).any fun present =>
    containsText value.toList (Text.lower present.toList)

/-- The first thing that keeps a request from becoming a WebSocket. -/
def upgradeProblem? (request : Request) : Option UpgradeProblem :=
  if request.method ≠ "GET" then some .method
  else if !request.headerMentions "connection" "upgrade" then some .connection
  else if !request.headerIs "upgrade" "websocket" then some .upgrade
  else if (request.rawHeader? "sec-websocket-key").isNone then some .key
  else if !request.headerIs "sec-websocket-version" "13" then some .version
  else if !request.upgradable then some .transport
  else none

end Request

end EventHub.Http
