import EventHub.Metrics.Exposition
import EventHub.Node.Health
import EventHub.Node.Ingest

/-!
The node's HTTP interface. Every request is counted, and its answer carries a request id: the
caller's own, or a fresh one.
-/

namespace EventHub.Node

/-- A connection as it is listed. When it was created and how long its events wait are left to
whoever keeps the clock, and stand as zero. -/
def connectionJson (sample : ConnectionSample) : Json :=
  let number (value : Nat) : Json := .natural (UInt64.ofNat value)
  .record
    [("id", .text sample.id), ("subject", .text sample.subject),
      ("state", .text sample.state.text), ("created_at", .natural 0),
      ("buffer_depth", number sample.depth), ("buffer_capacity", number sample.capacity),
      ("dropped", number sample.dropped), ("avg_latency_ms", .natural 0),
      ("paused", .bool sample.paused), ("missed_pongs", number sample.missed)]

def listConnections (node : Node) (request : Http.Request) : Http.Response :=
  match node.requireAdmin request with
  | .error problem => problem.response
  | .ok _ =>
      .ofJson 200
        (.array (node.live.hub.live.map fun connection => connectionJson connection.sample))

/-- The body is read before the caller is looked at. -/
def ingest (node : Node) (request : Http.Request) : Node × Http.Response :=
  match Ingest.readBody request with
  | .error problem => (node, problem.response)
  | .ok inputs =>
      match node.requireAdmin request with
      | .error problem => (node, problem.response)
      | .ok _ =>
          match Ingest.submit node.live.ingest node.live.stamp inputs with
          | (queue, .ok receipt) =>
              ({ node with live := { node.live with ingest := queue } },
                .ofJson 202 receipt.json)
          | (queue, .error problem) =>
              ({ node with live := { node.live with ingest := queue } }, problem.response)

def scrape (node : Node) : Http.Response where
  status := 200
  contentType := some "text/plain; version=0.0.4; charset=utf-8"
  body := .text node.metrics.text

inductive Endpoint where
  | socket
  | events
  | statistics
  | connections
  | metrics
  | health
  | live
  | ready
  deriving DecidableEq

def endpoint? : String → Option Endpoint
  | "/ws" => some .socket
  | "/api/events" => some .events
  | "/api/realtime/stats" => some .statistics
  | "/api/realtime/connections" => some .connections
  | "/metrics" => some .metrics
  | "/health" => some .health
  | "/health/live" => some .live
  | "/health/ready" => some .ready
  | _ => none

/-- Events are posted; everything else is read. -/
def Endpoint.accepts (endpoint : Endpoint) (method : String) : Bool :=
  match endpoint with
  | .events => method == "POST"
  | _ => method == "GET" || method == "HEAD"

def serve (node : Node) (request : Http.Request) : Endpoint → Node × Http.Response
  | .socket => (node, (node.verdict request).response request)
  | .events => node.ingest request
  | .statistics => (node, .ofJson 200 node.live.hub.statistics.json)
  | .connections => (node, node.listConnections request)
  | .metrics => (node, node.scrape)
  | .health => (node, node.health)
  | .live => (node, node.liveness)
  | .ready => (node, node.readiness)

def dispatch (node : Node) (request : Http.Request) : Node × Http.Response :=
  match endpoint? request.path with
  | none => (node, .notFound)
  | some endpoint =>
      if endpoint.accepts request.method then
        let (next, response) := node.serve request endpoint
        (next, response.forMethod request.method)
      else (node, .methodNotAllowed)

def requestIdHeader : String := "x-request-id"

def countRequest (node : Node) (request : Http.Request) (status : Nat) : Node :=
  { node with
    requests := node.requests.recordRequest
      { method := request.method, path := request.path, status } (.ofFloat 0) }

/-- Answers a request; while it is served it counts as active. -/
def respond (node : Node) (freshId : String) (request : Http.Request) : Node × Http.Response :=
  let active := node.requests.activeRequests
  let begun := { node with requests := { node.requests with activeRequests := active + 1 } }
  let (served, response) := begun.dispatch request
  let ended := { served with requests := { served.requests with activeRequests := active } }
  (ended.countRequest request response.status,
    { response with requestId := some ((request.header? requestIdHeader).getD freshId) })

end EventHub.Node
