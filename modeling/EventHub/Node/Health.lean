import EventHub.Node.Basic

/-! Health probes. A hub is up when it is ready and has room for one more connection. -/

namespace EventHub.Node

def version : String := "0.1.0"

def isHubUp (node : Node) : Bool :=
  node.ready && node.live.hub.count < node.live.hub.config.maxConnections

def healthText (up : Bool) : Json :=
  .text (if up then "up" else "down")

def healthStatus (up : Bool) : Nat :=
  if up then 200 else 503

def checks (node : Node) : Json :=
  .record
    [("hub", .record
      [("status", healthText node.isHubUp),
        ("details", .record
          [("connections", .natural (UInt64.ofNat node.live.hub.count)),
            ("max_connections",
              .natural (UInt64.ofNat node.live.hub.config.maxConnections))])])]

def uptimeJson (node : Node) : Json :=
  .natural (UInt64.ofNat node.uptime)

def health (node : Node) : Http.Response :=
  .ofJson (healthStatus node.isHubUp)
    (.record
      [("status", healthText node.isHubUp), ("version", .text version),
        ("uptime_seconds", node.uptimeJson), ("checks", node.checks)])

def liveness (node : Node) : Http.Response :=
  .ofJson 200 (.record [("status", healthText true), ("uptime_seconds", node.uptimeJson)])

def readiness (node : Node) : Http.Response :=
  .ofJson (healthStatus node.isHubUp)
    (.record [("status", healthText node.isHubUp), ("checks", node.checks)])

end EventHub.Node
