import EventHub.Node.Api

/-! WebSocket clients of a node. -/

namespace EventHub.Node

inductive SocketOutcome where
  | session (id : ConnectionId)
  | closed (reason : CloseReason)
  deriving DecidableEq

/-- Registers a client that was let in and starts its session; without room it is turned away. -/
def accept (node : Node) (id : ConnectionId) (identity : Identity) (version : UInt32) :
    Node × SocketOutcome :=
  match node.live.hub.register id identity version with
  | .ok hub =>
      let (live, _) := { node.live with hub }.startSession id {}
      ({ node with live }, .session id)
  | .error _ => (node, .closed .capacityExceeded)

/-- Opens a socket where sockets are served; a connection takes the given id. -/
def connect (node : Node) (freshId : String) (id : ConnectionId) (request : Http.Request) :
    Node × Http.Response × Option SocketOutcome :=
  let (next, response) := node.respond freshId request
  match endpoint? request.path, node.verdict request with
  | some .socket, .closeWith reason => (next, response, some (.closed reason))
  | some .socket, .welcome identity version =>
      let (accepted, outcome) := next.accept id identity version
      (accepted, response, some outcome)
  | _, _ => (next, response, none)

def framesFor (node : Node) : SocketOutcome → List ClientFrame × Bool
  | .session id => node.live.writtenFrames id
  | .closed reason => ([reason.frame.toFrame], true)

end EventHub.Node
