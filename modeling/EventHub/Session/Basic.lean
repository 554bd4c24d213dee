import EventHub.Hub.Close
import EventHub.Session.Transport

/-!
A session drives one connection over a transport. Its receive loop handles what the client
sends, its send loop writes what the hub has for the client, and a supervisor ends the session
when both are over. Each loop goes in small steps, so that sessions and the hub can interleave.
-/

namespace EventHub

inductive ReceiveExit where
  | clientClosed
  | transportError
  | cancelled
  deriving DecidableEq

inductive ReceivePhase where
  | reading
  | over (exit : ReceiveExit)
  deriving DecidableEq

/-- A message taken from its queue and not yet written. -/
inductive Outgoing where
  | control (payload : Payload)
  | event (payload : Payload)
  deriving DecidableEq

def Outgoing.payload : Outgoing → Payload
  | control payload | event payload => payload

inductive SendPhase where
  | delivering
  | resting (wake : Instant)
  | writing (message : Outgoing)
  /-- Writing out the control messages that are left after a close was asked for. -/
  | flushingControl (deadline : Instant)
  /-- Writing out the events that are left; control messages are not looked at any more. -/
  | flushingEvents (deadline : Instant)
  | flushWriting (message : Outgoing) (deadline : Instant)
  | farewell (deadline : Instant)
  | over
  deriving DecidableEq

inductive SupervisePhase where
  | receiving
  | sending (deadline : Instant)
  | over (reason : CloseReason)
  deriving DecidableEq

structure Session where
  id : ConnectionId
  inbound : List Inbound := []
  receive : ReceivePhase := .reading
  send : SendPhase := .delivering
  supervise : SupervisePhase := .receiving
  sink : Sink
  deriving DecidableEq

namespace Session

def ended? (session : Session) : Option CloseReason :=
  match session.supervise with
  | .over reason => some reason
  | _ => none

def isReading (session : Session) : Bool :=
  session.receive == .reading && !session.inbound.contains .ended

/-- Claims a connection and welcomes the client; a connection has one session only. -/
def start (hub : Hub) (id : ConnectionId) (sink : Sink) : Option (Hub × Session) := do
  let connection ← hub.get? id
  let control ← connection.control.take?
  let claimed := ({ connection with control }.attach).1
  let welcomed :=
    match claimed.sendControl (.welcome id connection.protocolVersion) with
    | .ok welcomed => welcomed
    | .error _ => claimed
  some (hub.put welcomed, { id, sink })

/-- The send loop is over; what waits in the control queue is lost with its reader. -/
def endSending (hub : Hub) (session : Session) : Hub × Session :=
  (hub.modify session.id fun connection => { connection with control := connection.control.drop },
    { session with send := .over })

end Session

end EventHub
