import EventHub.Session.Basic

/-!
The receive loop. It reads until the client leaves, reading fails, or the hub asks for a close.
A text that is no command is passed over in silence; a command changes the hub as it says and is
answered through the control queue.
-/

namespace EventHub.Session

/-- Carries out a command; a pong has no reply. -/
def execute (now : Instant) (hub : Hub) (id : ConnectionId) :
    ClientCommand → Hub × Option ServerMessage
  | .pong => (hub.modify id fun connection => connection.recordPong now, none)
  | .subscribe events clusters =>
      let (next, result) := hub.subscribe id events clusters
      (next, some (match result with
        | .ok confirmed => .subscribed confirmed.events confirmed.clusters.names
        | .error cause => .ofError cause))
  | .unsubscribe events => ((hub.unsubscribe id events).1, some (.unsubscribed events))

/-- Queues a reply; one that finds no room or no reader is dropped. -/
def reply (hub : Hub) (id : ConnectionId) (message : ServerMessage) : Hub :=
  match hub.get? id with
  | some connection =>
      match connection.sendControl message with
      | .ok next => hub.put next
      | .error _ => hub
  | none => hub

def handleText (now : Instant) (hub : Hub) (id : ConnectionId) (text : String) : Hub :=
  match ClientCommand.parse text with
  | .error _ => hub
  | .ok command =>
      match execute now hub id command with
      | (next, some message) => reply next id message
      | (next, none) => next

/-- One step of the receive loop, if it has one to take. Pongs are stamped with `now`. -/
def receiveStep (now : Instant) (hub : Hub) (session : Session) : Option (Hub × Session) :=
  match session.receive, hub.get? session.id with
  | .reading, some connection =>
      let stop (exit : ReceiveExit) : Hub × Session := (hub, { session with receive := .over exit })
      if connection.cancelled then some (stop .cancelled)
      else
        match session.inbound with
        | [] => none
        | .text content :: rest =>
            some (handleText now hub session.id content, { session with inbound := rest })
        | .other :: rest => some (hub, { session with inbound := rest })
        | .close :: _ | .ended :: _ => some (stop .clientClosed)
        | .failure :: _ => some (stop .transportError)
  | _, _ => none

end EventHub.Session
