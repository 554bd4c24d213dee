import EventHub.Hub.Close

/-!
The heartbeat monitor's pass over all open connections: each is pinged, left waiting for its
pong, or evicted because it missed too many or takes no control messages any more.
-/

namespace EventHub

structure MonitorReport where
  pinged : Nat := 0
  evicted : List ConnectionId := []
  deriving DecidableEq

namespace Hub

/-- Reports the connection as it stands, unless a close has begun. -/
def reportSample (hub : Hub) (id : ConnectionId) : Hub :=
  match hub.get? id with
  | some connection =>
      if connection.isOpen then hub.report (.sampled connection.sample) else hub
  | none => hub

def reportMiss (hub : Hub) (before after : Connection) : Hub :=
  if before.heartbeat.missed < after.heartbeat.missed then
    hub.report (.missed after.id after.heartbeat.missed)
  else hub

/-- A ping that cannot be queued makes the connection dead. -/
def ping (hub : Hub) (stamp : UInt64) (connection : Connection) : Hub × MonitorReport :=
  match connection.sendControl (.ping stamp) with
  | .ok pinged => (hub.put pinged, { pinged := 1 })
  | .error _ => (hub.put connection.markDead, { evicted := [connection.id] })

def visit (now : Instant) (stamp : UInt64) (hub : Hub) (connection : Connection) :
    Hub × MonitorReport :=
  let (ticked, action) := connection.heartbeatTick hub.config.heartbeat now
  let noted := (hub.put ticked).reportMiss connection ticked
  let (next, report) : Hub × MonitorReport :=
    match action with
    | .wait => (noted, {})
    | .sendPing => noted.ping stamp ticked
    | .evict => (noted, { evicted := [connection.id] })
  (next.reportSample connection.id, report)

/-- The pass up to the closes it decides on. -/
def survey (hub : Hub) (now : Instant) (stamp : UInt64) : Hub × MonitorReport :=
  hub.registered.foldl
    (fun (hub, report) id =>
      match hub.get? id with
      | some connection =>
          if connection.isOpen then
            let (next, turn) := hub.visit now stamp connection
            (next,
              { pinged := report.pinged + turn.pinged
                evicted := report.evicted ++ turn.evicted })
          else (hub, report)
      | none => (hub, report))
    (hub, {})

/-- A whole pass; pings carry `stamp`. -/
def tick (hub : Hub) (now : Instant) (stamp : UInt64) : Hub × MonitorReport :=
  let (surveyed, report) := hub.survey now stamp
  (surveyed.closeAll .heartbeatTimeout report.evicted, report)

end Hub

end EventHub
