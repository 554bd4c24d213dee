import EventHub.Session.Basic

/-!
The send loop. Until a close is asked for it writes control messages first, then events, and
rests when there is neither. After that it flushes what is left, control messages and then
events, within a time limit, and says goodbye with the reason of the close.
-/

namespace EventHub.Session

def takeControl (connection : Connection) : Option (Connection × Outgoing) :=
  connection.control.receive?.map fun (payload, control) =>
    ({ connection with control }, .control payload)

def takeEvent (connection : Connection) : Option (Connection × Outgoing × Option Crossing) :=
  match connection.dequeue with
  | (next, some taken) => some (next, .event taken.payload, taken.crossing)
  | (_, none) => none

def takeNext (connection : Connection) : Option (Connection × Outgoing × Option Crossing) :=
  match takeControl connection with
  | some (next, message) => some (next, message, none)
  | none => takeEvent connection

def beginFlush (now : Instant) (hub : Hub) (session : Session) : Hub × Session :=
  (hub, { session with send := .flushingControl (now + hub.config.drainTimeout) })

def beginFarewell (now : Instant) (hub : Hub) (session : Session) : Hub × Session :=
  (hub, { session with send := .farewell (now + hub.config.drainTimeout) })

/-- A failed write ends the loop; while delivering it also asks for a close. -/
def failDelivery (hub : Hub) (session : Session) : Hub × Session :=
  endSending (hub.beginDraining session.id .clientInitiated).1 session

def deliverStep (now : Instant) (hub : Hub) (session : Session) (connection : Connection) :
    Hub × Session :=
  if connection.cancelled then beginFlush now hub session
  else
    match takeNext connection with
    | some (next, message, crossing) =>
        ((hub.put next).reportCrossing session.id crossing,
          { session with send := .writing message })
    | none => (hub, { session with send := .resting (now + hub.config.idlePoll) })

/-- Rest ends with a close, a control message, or its time; events are not noticed. -/
def restStep (now wake : Instant) (hub : Hub) (session : Session) (connection : Connection) :
    Option (Hub × Session) :=
  if connection.cancelled then some (beginFlush now hub session)
  else if wake ≤ now || !connection.control.waiting.isEmpty then
    some (hub, { session with send := .delivering })
  else none

def writeStep (hub : Hub) (session : Session) (message : Outgoing) : Option (Hub × Session) :=
  match session.sink.write (.text message.payload) with
  | .done sink => some (hub, { session with sink, send := .delivering })
  | .failed => some (failDelivery hub session)
  | .full => none

def flushControlStep (deadline : Instant) (hub : Hub) (session : Session)
    (connection : Connection) : Hub × Session :=
  match takeControl connection with
  | some (next, message) => (hub.put next, { session with send := .flushWriting message deadline })
  | none => (hub, { session with send := .flushingEvents deadline })

def flushEventStep (now deadline : Instant) (hub : Hub) (session : Session)
    (connection : Connection) : Hub × Session :=
  match takeEvent connection with
  | some (next, message, _) =>
      (hub.put next, { session with send := .flushWriting message deadline })
  | none => beginFarewell now hub session

def flushAfter (message : Outgoing) (deadline : Instant) : SendPhase :=
  match message with
  | .control _ => .flushingControl deadline
  | .event _ => .flushingEvents deadline

/-- A flush that runs out of time gives up what is still queued. -/
def flushWriteStep (now deadline : Instant) (hub : Hub) (session : Session)
    (message : Outgoing) : Option (Hub × Session) :=
  match session.sink.write (.text message.payload) with
  | .done sink => some (hub, { session with sink, send := flushAfter message deadline })
  | .failed => some (endSending hub session)
  | .full =>
      if deadline ≤ now then
        some (beginFarewell now (hub.modify session.id Connection.clear) session)
      else none

def farewellStep (now deadline : Instant) (hub : Hub) (session : Session)
    (connection : Connection) : Option (Hub × Session) :=
  match session.sink.write (.close connection.reason.frame) with
  | .done sink => some (endSending hub { session with sink := sink.finish })
  | .failed => some (endSending hub session)
  | .full => if deadline ≤ now then some (endSending hub session) else none

def sendStep (now : Instant) (hub : Hub) (session : Session) : Option (Hub × Session) :=
  match hub.get? session.id with
  | none => none
  | some connection =>
      match session.send with
      | .delivering => some (deliverStep now hub session connection)
      | .resting wake => restStep now wake hub session connection
      | .writing message => writeStep hub session message
      | .flushingControl deadline => some (flushControlStep deadline hub session connection)
      | .flushingEvents deadline => some (flushEventStep now deadline hub session connection)
      | .flushWriting message deadline => flushWriteStep now deadline hub session message
      | .farewell deadline => farewellStep now deadline hub session connection
      | .over => none

def sendWake? (session : Session) : Option Instant :=
  match session.send with
  | .resting wake => some wake
  | .flushWriting _ deadline | .farewell deadline => some deadline
  | .delivering | .writing _ | .flushingControl _ | .flushingEvents _ | .over => none

end EventHub.Session
