import EventHub.Session.Receive
import EventHub.Session.Send

/-!
The end of a session. When the receive loop is over the connection drains; the send loop then
has the grace period, or at least the drain timeout, to end before it is abandoned. Without either
it is abandoned at once. The session closes its connection on the way out.
-/

namespace EventHub.Session

def sendGrace (config : HubConfig) : Nat :=
  max config.teardownGrace config.drainTimeout

def beginEnding (now : Instant) (hub : Hub) (session : Session) (exit : ReceiveExit) :
    Hub × Session :=
  let draining :=
    if exit = .cancelled then hub else (hub.beginDraining session.id .clientInitiated).1
  (draining, { session with supervise := .sending (now + sendGrace hub.config) })

/-- Both loops are over: the connection is marked finished and closed without further waiting. -/
def finish (hub : Hub) (session : Session) : Hub × Session :=
  let finished := hub.modify session.id Connection.markFinished
  let reason := ((hub.get? session.id).map Connection.reason).getD .clientInitiated
  ((finished.close session.id reason).1, { session with supervise := .over reason })

/-- Ends the session, with the send loop over or not. -/
def expire (hub : Hub) (session : Session) : Hub × Session :=
  if session.send = .over then finish hub session
  else
    let (abandoned, stopped) := endSending hub session
    finish abandoned stopped

def superviseStep (now : Instant) (hub : Hub) (session : Session) : Option (Hub × Session) :=
  match session.supervise, session.receive with
  | .receiving, .over exit =>
      let (draining, ending) := beginEnding now hub session exit
      some (if sendGrace hub.config = 0 then expire draining ending else (draining, ending))
  | .receiving, .reading => none
  | .sending deadline, _ =>
      if session.send = .over || deadline ≤ now then some (expire hub session) else none
  | .over _, _ => none

/-- The send loop waits for room, and the supervisor has waited for longer: the flush began later,
or the supervisor itself asked for it. -/
def supervisorLeads (config : HubConfig) (session : Session) : Bool :=
  match session.receive with
  | .over exit =>
      session.sink.isFull && (exit != .cancelled || config.drainTimeout < sendGrace config)
  | .reading => false

def superviseWake? (session : Session) : Option Instant :=
  match session.supervise with
  | .sending deadline => some deadline
  | .receiving | .over _ => none

end EventHub.Session
