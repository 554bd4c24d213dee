import EventHub.Hub.Ingest
import EventHub.Hub.Monitor
import EventHub.Hub.Routing
import EventHub.Session.Supervise

/-!
A hub at work: the registry with its sessions, a router that empties the ingest queue, a monitor
that ticks, and closes that wait for a session to end, all on one clock. Each activity goes in
small steps of its own.
-/

namespace EventHub

/-- A close that waits for the connection's session, until its deadline at the latest. -/
structure Closing where
  id : ConnectionId
  reason : CloseReason
  deadline : Instant
  deriving DecidableEq

inductive MonitorPhase where
  | stopped
  | waiting (due : Instant)
  /-- The closes of a pass are awaited before the next pass. -/
  | closing (evicted : List ConnectionId) (due : Instant)
  deriving DecidableEq

structure LiveHub where
  hub : Hub
  clock : Instant := 0
  /-- The time that stamps heartbeats inside running tasks. -/
  wallClock : Instant := 0
  sessions : Table ConnectionId Session := ∅
  closings : List Closing := []
  ingest : IngestQueue
  routing : Bool := false
  monitor : MonitorPhase := .stopped

inductive Task where
  | send (id : ConnectionId)
  | receive (id : ConnectionId)
  | supervise (id : ConnectionId)
  | close (id : ConnectionId)
  | route
  | monitor
  deriving DecidableEq

namespace LiveHub

/-- A hub whose router and monitor are not running. -/
def idle (config : HubConfig) : LiveHub where
  hub := .ofConfig config
  ingest := .ofCapacity config.ingestCapacity

/-- A started hub; its first monitor pass is one interval away. -/
def start (config : HubConfig) : LiveHub :=
  { idle config with routing := true, monitor := .waiting config.heartbeat.interval }

def stamp (live : LiveHub) : UInt64 :=
  UInt64.ofNat live.wallClock

def settleStep (live : LiveHub) (id : ConnectionId) :
    Option (Hub × Session) → Option LiveHub
  | some (hub, session) =>
      some { live with hub, sessions := live.sessions.insert id session }
  | none => none

/-- Begins a close; `none` when the connection is not registered. -/
def beginClose? (live : LiveHub) (id : ConnectionId) (reason : CloseReason) : Option LiveHub :=
  (live.hub.beginClose? id reason).map fun hub =>
    { live with
      hub
      closings := live.closings ++
        [{ id, reason, deadline := live.clock + hub.config.teardownGrace }] }

def beginCloses (live : LiveHub) (reason : CloseReason) (ids : List ConnectionId) : LiveHub :=
  ids.foldl (fun live id => (live.beginClose? id reason).getD live) live

def canFinish (live : LiveHub) (closing : Closing) : Bool :=
  (live.hub.get? closing.id).all Connection.settled || closing.deadline ≤ live.clock

def finishStep (live : LiveHub) (id : ConnectionId) : Option LiveHub :=
  match live.closings.find? fun closing => closing.id == id with
  | some closing =>
      if live.canFinish closing then
        some
          { live with
            hub := live.hub.finishClose id closing.reason
            closings := live.closings.filter fun other => other.id ≠ id }
      else none
  | none => none

def routeStep (live : LiveHub) : Option LiveHub :=
  if live.routing then
    live.ingest.next?.map fun (event, rest) =>
      { live with hub := (live.hub.route event).1, ingest := rest }
  else none

/-- A pass that comes more than this late shifts the passes after it. -/
def lateTolerance : Nat := 5

def nextDue (due now interval : Instant) : Instant :=
  if due + lateTolerance < now then now + interval else due + interval

def monitorStep (live : LiveHub) : Option LiveHub :=
  match live.monitor with
  | .stopped => none
  | .waiting due =>
      if due ≤ live.clock then
        let (surveyed, report) := live.hub.survey live.wallClock live.stamp
        let next := nextDue due live.clock live.hub.config.heartbeat.interval
        some (beginCloses { live with hub := surveyed, monitor := .closing report.evicted next }
          .heartbeatTimeout report.evicted)
      else none
  | .closing evicted due =>
      if live.closings.any fun closing => evicted.contains closing.id then none
      else some { live with monitor := .waiting due }

def taskStep (live : LiveHub) : Task → Option LiveHub
  | .send id =>
      (live.sessions.get? id).bind fun session =>
        live.settleStep id (session.sendStep live.clock live.hub)
  | .receive id =>
      (live.sessions.get? id).bind fun session =>
        live.settleStep id (session.receiveStep live.wallClock live.hub)
  | .supervise id =>
      (live.sessions.get? id).bind fun session =>
        live.settleStep id (session.superviseStep live.clock live.hub)
  | .close id => live.finishStep id
  | .route => live.routeStep
  | .monitor => live.monitorStep

end LiveHub

end EventHub
