import EventHub.Live.Clock

/-! What an embedding server does with a hub at work, waiting where the hub makes it wait. -/

namespace EventHub.LiveHub

def isClosing (live : LiveHub) (ids : List ConnectionId) : Bool :=
  live.closings.any fun closing => ids.contains closing.id

def finishCloses (live : LiveHub) (ids : List ConnectionId) : LiveHub :=
  ids.foldl (fun live id => (live.finishStep id).getD live) live

/-- Waits for closes that have begun; one with nothing to wait for ends at once. -/
def awaitCloses (live : LiveHub) (ids : List ConnectionId) : LiveHub :=
  let finished := live.finishCloses ids
  if finished.isClosing ids then
    finishCloses
      (finished.advanceUntil (fun live => !live.isClosing ids) (finished.closingTime ids)) ids
  else finished

/-- Waits for the end of a connection's session; says whether it came in time. -/
def awaitFinished (live : LiveHub) (id : ConnectionId) (span : Nat) : LiveHub × Bool :=
  let isSettled (live : LiveHub) : Bool := (live.hub.get? id).all Connection.settled
  let waited := if isSettled live then live else live.advanceUntil isSettled span
  (waited, isSettled waited)

def close (live : LiveHub) (id : ConnectionId) (reason : CloseReason) : LiveHub × Bool :=
  match live.beginClose? id reason with
  | some begun => (begun.awaitCloses [id], true)
  | none => (live, false)

def shutdown (live : LiveHub) : LiveHub × Nat :=
  let ids := live.hub.registered
  ((live.beginCloses .serverShutdown ids).awaitCloses ids, ids.length)

/-- A monitor pass on demand, with the closes it decides on. -/
def tick (live : LiveHub) (now : Instant) : LiveHub × MonitorReport :=
  let (surveyed, report) := live.hub.survey now live.stamp
  ((beginCloses { live with hub := surveyed } .heartbeatTimeout report.evicted).awaitCloses
    report.evicted, report)

def publish (live : LiveHub) (event : Event) : LiveHub × Except HubError Unit :=
  match live.ingest.publish event with
  | .ok ingest => ({ live with ingest }, .ok ())
  | .error cause => (live, .error cause)

/-- Waits for room; the router first routes what is queued. -/
def publishWait (live : LiveHub) (event : Event) : LiveHub × Except HubError Unit :=
  match live.publish event with
  | (_, .error .ingestFull) => live.runReady.publish event
  | outcome => outcome

def routeQueued : Nat → LiveHub → LiveHub × Nat
  | 0, live => (live, 0)
  | limit + 1, live =>
      match live.ingest.next? with
      | some (event, rest) =>
          let (next, count) :=
            routeQueued limit { live with hub := (live.hub.route event).1, ingest := rest }
          (next, count + 1)
      | none => (live, 0)

def closeIngest (live : LiveHub) : LiveHub :=
  { live with ingest := live.ingest.close, routing := false }

/-- Ends the monitor; a pass under way first sees its closes through. -/
def stopMonitor (live : LiveHub) : LiveHub :=
  match live.monitor with
  | .closing evicted _ => { live.awaitCloses evicted with monitor := .stopped }
  | .waiting _ | .stopped => { live with monitor := .stopped }

def stop (live : LiveHub) : LiveHub × Nat :=
  live.closeIngest.stopMonitor.shutdown

/-- Starts a session on a connection; a second one ends at once with the reason on record. -/
def startSession (live : LiveHub) (id : ConnectionId) (sink : Sink) :
    LiveHub × Option CloseReason :=
  match Session.start live.hub id sink with
  | some (hub, session) =>
      ({ live with hub, sessions := live.sessions.insert id session }, none)
  | none => (live, (live.hub.get? id).map Connection.reason)

/-- Hands a session a frame of its client; says whether it still reads. -/
def receive (live : LiveHub) (id : ConnectionId) (frame : Inbound) : LiveHub × Bool :=
  match live.sessions.get? id with
  | some session =>
      if session.isReading then
        ({ live with
            sessions := live.sessions.insert id
              { session with inbound := session.inbound ++ [frame] } }, true)
      else (live, false)
  | none => (live, false)

def modifySink (live : LiveHub) (id : ConnectionId) (change : Sink → Sink) : LiveHub :=
  { live with
    sessions := live.sessions.update id fun session =>
      { session with sink := change session.sink } }

/-- Hands a session a frame that its client sent. A client that has sent a close frame gets nothing
more. -/
def receiveFrame (live : LiveHub) (id : ConnectionId) (frame : ClientFrame) : LiveHub × Bool :=
  let (next, read) := live.receive id (.ofFrame frame)
  match frame with
  | .close _ => (next.modifySink id Sink.broken, read)
  | _ => (next, read)

def breakTransport (live : LiveHub) (id : ConnectionId) : LiveHub :=
  (live.receive id .failure).1.modifySink id Sink.broken

/-- The frames a session has written to its client, and whether it is over. -/
def writtenFrames (live : LiveHub) (id : ConnectionId) : List ClientFrame × Bool :=
  match live.sessions.get? id with
  | some session =>
      (session.sink.written.filterMap Outbound.frame?, session.ended?.isSome)
  | none => ([], false)

end EventHub.LiveHub
