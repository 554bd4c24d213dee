import EventHub.Hub.Subscribe

/-!
Tearing a connection down. A close first takes the connection out of the registry, which only
one caller can do, then starts draining and clears its subscriptions; when its session is over,
or the grace period is, the connection is closed and the close is reported.
-/

namespace EventHub.Hub

def detach? (hub : Hub) (id : ConnectionId) : Option Hub :=
  if hub.isRegistered id then
    some { hub with registered := hub.registered.filter fun other => other ≠ id }
  else none

/-- Asks a connection to close; the flag says whether this request started it. -/
def beginDraining (hub : Hub) (id : ConnectionId) (reason : CloseReason) : Hub × Bool :=
  match hub.get? id with
  | some connection =>
      let (next, started) := connection.beginDraining reason
      (hub.put next, started)
  | none => (hub, false)

/-- The part of a close before it waits for the session. -/
def beginClose? (hub : Hub) (id : ConnectionId) (reason : CloseReason) : Option Hub :=
  (hub.detach? id).map fun detached => (detached.beginDraining id reason).1.dropSubscriptions id

def graceFor (hub : Hub) (id : ConnectionId) : Nat :=
  match hub.get? id with
  | some connection => if connection.settled then 0 else hub.config.teardownGrace
  | none => 0

def countEviction (hub : Hub) (reason : CloseReason) : Hub :=
  if reason = .heartbeatTimeout then
    { hub with totals := { hub.totals with evictions := hub.totals.evictions + 1 } }
  else hub

/-- The part of a close after the wait. The reason on record goes before the one asked for. -/
def finishClose (hub : Hub) (id : ConnectionId) (asked : CloseReason) : Hub :=
  let closed := hub.modify id Connection.markClosed
  let reason := ((hub.get? id).bind Connection.closeReason).getD asked
  (closed.countEviction reason).report (.closed id reason)

/-- A close that nothing interrupts; says whether the connection was registered. -/
def close (hub : Hub) (id : ConnectionId) (reason : CloseReason) : Hub × Bool :=
  match hub.beginClose? id reason with
  | some closing => (closing.finishClose id reason, true)
  | none => (hub, false)

def closeAll (hub : Hub) (reason : CloseReason) (ids : List ConnectionId) : Hub :=
  ids.foldl (fun hub id => (hub.close id reason).1) hub

def shutdown (hub : Hub) : Hub × Nat :=
  (hub.closeAll .serverShutdown hub.registered, hub.count)

/-- How long a shutdown takes when no session ends meanwhile. -/
def shutdownGrace (hub : Hub) : Nat :=
  hub.registered.foldl (fun longest id => max longest (hub.graceFor id)) 0

end EventHub.Hub
