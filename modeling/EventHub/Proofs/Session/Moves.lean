import EventHub.Proofs.Hub.Keeping
import EventHub.Proofs.Session.Trail

/-!
A connection and its session side by side. Each step of a session is inverted once into a move of
this pair that says all there is to the step: when it is taken and what it leaves. Other
connections are not touched by it.
-/

namespace EventHub

structure Client where
  connection : Connection
  session : Session

namespace Client

open Session (sendGrace flushAfter)

def turnTo (client : Client) (phase : SendPhase) : Client :=
  { client with session := { client.session with send := phase } }

def withControls (client : Client) (waiting : List Payload) : Client :=
  { client with
    connection :=
      { client.connection with control := { client.connection.control with waiting } } }

def withEventTaken (client : Client) : Client :=
  { client with connection := client.connection.dequeue.1 }

def withEventAdded (client : Client) (payload : Payload) : Client :=
  { client with
    connection :=
      { client.connection with buffer := (client.connection.buffer.enqueue payload).1 } }

def withSink (client : Client) (sink : Sink) : Client :=
  { client with session := { client.session with sink } }

def drained (client : Client) : Client :=
  { client with connection := (client.connection.beginDraining .clientInitiated).1 }

/-- The send loop is over and has let go of the control queue. -/
def stopped (client : Client) : Client where
  connection := { client.connection with control := client.connection.control.drop }
  session := { client.session with send := .over }

inductive Sends (now : Instant) (config : HubConfig) (client : Client) : Client → Prop where
  | startsFlush
      (unflushed : client.session.send = .delivering ∨
        ∃ wake, client.session.send = .resting wake)
      (cancelled : client.connection.cancelled = true) :
      Sends now config client (client.turnTo (.flushingControl (now + config.drainTimeout)))
  | takesControl {payload : Payload} {rest : List Payload}
      (delivering : client.session.send = .delivering)
      (uncancelled : client.connection.cancelled = false)
      (waiting : client.connection.control.waiting = payload :: rest) :
      Sends now config client ((client.withControls rest).turnTo (.writing (.control payload)))
  | takesEvent {payload : Payload} {rest : List Payload}
      (delivering : client.session.send = .delivering)
      (uncancelled : client.connection.cancelled = false)
      (silent : client.connection.control.waiting = [])
      (waiting : client.connection.buffer.queue = payload :: rest) :
      Sends now config client (client.withEventTaken.turnTo (.writing (.event payload)))
  | rests (delivering : client.session.send = .delivering)
      (uncancelled : client.connection.cancelled = false)
      (silent : client.connection.control.waiting = [])
      (idle : client.connection.buffer.queue = []) :
      Sends now config client (client.turnTo (.resting (now + config.idlePoll)))
  | wakes {wake : Instant} (resting : client.session.send = .resting wake)
      (uncancelled : client.connection.cancelled = false)
      (due : wake ≤ now ∨ client.connection.control.waiting ≠ []) :
      Sends now config client (client.turnTo .delivering)
  | writes {message : Outgoing} {sink : Sink} (holds : client.session.send = .writing message)
      (written : client.session.sink.write (.text message.payload) = .done sink) :
      Sends now config client ((client.withSink sink).turnTo .delivering)
  | fails {message : Outgoing} (holds : client.session.send = .writing message)
      (failed : client.session.sink.write (.text message.payload) = .failed) :
      Sends now config client client.drained.stopped
  | flushesControl {deadline : Instant} {payload : Payload} {rest : List Payload}
      (flushing : client.session.send = .flushingControl deadline)
      (waiting : client.connection.control.waiting = payload :: rest) :
      Sends now config client
        ((client.withControls rest).turnTo (.flushWriting (.control payload) deadline))
  | turnsToEvents {deadline : Instant}
      (flushing : client.session.send = .flushingControl deadline)
      (silent : client.connection.control.waiting = []) :
      Sends now config client (client.turnTo (.flushingEvents deadline))
  | flushesEvent {deadline : Instant} {payload : Payload} {rest : List Payload}
      (flushing : client.session.send = .flushingEvents deadline)
      (waiting : client.connection.buffer.queue = payload :: rest) :
      Sends now config client
        (client.withEventTaken.turnTo (.flushWriting (.event payload) deadline))
  | startsFarewell {deadline : Instant}
      (flushing : client.session.send = .flushingEvents deadline)
      (idle : client.connection.buffer.queue = []) :
      Sends now config client (client.turnTo (.farewell (now + config.drainTimeout)))
  | flushWrites {message : Outgoing} {deadline : Instant} {sink : Sink}
      (holds : client.session.send = .flushWriting message deadline)
      (written : client.session.sink.write (.text message.payload) = .done sink) :
      Sends now config client ((client.withSink sink).turnTo (flushAfter message deadline))
  | flushFails {message : Outgoing} {deadline : Instant}
      (holds : client.session.send = .flushWriting message deadline)
      (failed : client.session.sink.write (.text message.payload) = .failed) :
      Sends now config client client.stopped
  | timesOut {message : Outgoing} {deadline : Instant}
      (holds : client.session.send = .flushWriting message deadline)
      (full : client.session.sink.write (.text message.payload) = .full)
      (late : deadline ≤ now) :
      Sends now config client
        ({ client with connection := client.connection.clear }.turnTo
          (.farewell (now + config.drainTimeout)))
  | closes {deadline : Instant} {sink : Sink}
      (leaving : client.session.send = .farewell deadline)
      (written : client.session.sink.write (.close client.connection.reason.frame) =
        .done sink) :
      Sends now config client (client.withSink sink.finish).stopped
  | leaves {deadline : Instant} (leaving : client.session.send = .farewell deadline)
      (unwritten : client.session.sink.write (.close client.connection.reason.frame) = .failed ∨
        client.session.sink.write (.close client.connection.reason.frame) = .full ∧
          deadline ≤ now) :
      Sends now config client client.stopped

/-- The end of a session, with its send loop over or abandoned. -/
inductive Expires (client : Client) : Client → Prop where
  | finishes {kept : Connection} (isOver : client.session.send = .over)
      (keeps : client.connection.Keeps kept) :
      Expires client ⟨kept, { client.session with supervise := .over client.connection.reason }⟩
  | abandons {kept : Connection} (unfinished : client.session.send ≠ .over)
      (keeps : client.stopped.connection.Keeps kept) :
      Expires client
        ⟨kept, { client.stopped.session with supervise := .over client.connection.reason }⟩

/-- The session waits for its send loop; a client that has left has asked for the close itself. -/
def ending (client : Client) (exit : ReceiveExit) (deadline : Instant) : Client :=
  let client := if exit = .cancelled then client else client.drained
  { client with session := { client.session with supervise := .sending deadline } }

inductive Supervises (now : Instant) (config : HubConfig) (client : Client) : Client → Prop where
  | waits {exit : ReceiveExit} (receiving : client.session.supervise = .receiving)
      (left : client.session.receive = .over exit) (patient : sendGrace config ≠ 0) :
      Supervises now config client (client.ending exit (now + sendGrace config))
  | quits {exit : ReceiveExit} {last : Client}
      (receiving : client.session.supervise = .receiving)
      (left : client.session.receive = .over exit) (impatient : sendGrace config = 0)
      (expires : Expires (client.ending exit (now + sendGrace config)) last) :
      Supervises now config client last
  | expires {deadline : Instant} {last : Client}
      (sending : client.session.supervise = .sending deadline)
      (due : client.session.send = .over ∨ deadline ≤ now) (expires : Expires client last) :
      Supervises now config client last

inductive Receives (client : Client) : Client → Prop where
  | stops (reading : client.session.receive = .reading) (exit : ReceiveExit)
      (cancelled : exit = .cancelled → client.connection.cancelled = true) :
      Receives client { client with session := { client.session with receive := .over exit } }
  | hears (reading : client.session.receive = .reading) {kept : Connection}
      (inbound : List Inbound) (keeps : client.connection.Keeps kept) :
      Receives client ⟨kept, { client.session with inbound }⟩

/-- What can become of a client when no event is routed to it: one of its loops moves, it hands in
frames, or others do something to its connection that keeps the queues. -/
inductive Turns (now : Instant) (config : HubConfig) (client : Client) : Client → Prop where
  | sends {last : Client} (move : client.Sends now config last) : Turns now config client last
  | receives {last : Client} (move : client.Receives last) : Turns now config client last
  | supervises {last : Client} (move : client.Supervises now config last) :
      Turns now config client last
  | gets (inbound : List Inbound) :
      Turns now config client { client with session := { client.session with inbound } }
  | waits {kept : Connection} (keeps : client.connection.Keeps kept) :
      Turns now config client { client with connection := kept }

/-! A claimed control queue is never up for being claimed again. -/

variable {now : Instant} {config : HubConfig} {client last : Client}

theorem claimed_stopped (client : Client) :
    client.stopped.connection.control.reader ≠ .waiting := by
  simp [stopped, ControlQueue.drop]

theorem claimed_ending (claimed : client.connection.control.reader ≠ .waiting)
    (exit : ReceiveExit) (deadline : Instant) :
    (client.ending exit deadline).connection.control.reader ≠ .waiting := by
  rw [ending]
  split
  · exact claimed
  · have keeps := client.connection.keeps_beginDraining .clientInitiated
    exact keeps.reader claimed ▸ claimed

theorem Sends.claimed (move : client.Sends now config last)
    (claimed : client.connection.control.reader ≠ .waiting) :
    last.connection.control.reader ≠ .waiting := by
  cases move with
  | fails holds failed => exact claimed_stopped _
  | flushFails holds failed => exact claimed_stopped _
  | closes leaving written => exact claimed_stopped _
  | leaves leaving unwritten => exact claimed_stopped _
  | _ => exact claimed

theorem Receives.claimed (move : client.Receives last)
    (claimed : client.connection.control.reader ≠ .waiting) :
    last.connection.control.reader ≠ .waiting := by
  cases move with
  | stops reading exit cancelled => exact claimed
  | hears reading inbound keeps => exact keeps.reader claimed ▸ claimed

theorem Expires.claimed (move : client.Expires last)
    (claimed : client.connection.control.reader ≠ .waiting) :
    last.connection.control.reader ≠ .waiting := by
  cases move with
  | finishes isOver keeps => exact keeps.reader claimed ▸ claimed
  | abandons unfinished keeps =>
      exact keeps.reader client.claimed_stopped ▸ client.claimed_stopped

theorem Supervises.claimed (move : client.Supervises now config last)
    (claimed : client.connection.control.reader ≠ .waiting) :
    last.connection.control.reader ≠ .waiting := by
  cases move with
  | waits receiving left patient => exact claimed_ending claimed _ _
  | quits receiving left impatient expires =>
      exact expires.claimed (claimed_ending claimed _ _)
  | expires sending due expires => exact expires.claimed claimed

end Client

namespace Hub

/-- Only the connection `id` is touched; `changed` is what becomes of it. -/
structure Touches (hub next : Hub) (id : ConnectionId) (changed : Connection) : Prop where
  wellFormed : next.WellFormed
  config : next.config = hub.config
  own : next.get? id = some changed
  others : ∀ other, other ≠ id → next.standing other = hub.standing other

variable {hub middle next : Hub} {id : ConnectionId} {connection changed last : Connection}

theorem Effect.touches {turn : Standing → Standing}
    (effect : Effect hub next (Standing.onlyAt id turn))
    (becomes : (turn (hub.standing id)).connection = some changed) :
    Touches hub next id changed where
  wellFormed := effect.wellFormed
  config := effect.config
  own := by
    have own := effect.standing id
    rw [Standing.onlyAt_self] at own
    exact (congrArg Standing.connection own).trans becomes
  others := by
    intro other different
    rw [effect.standing, Standing.onlyAt, if_neg different]

namespace Touches

theorem refl (wellFormed : hub.WellFormed) (found : hub.get? id = some connection) :
    Touches hub hub id connection :=
  ⟨wellFormed, rfl, found, fun _ _ => rfl⟩

theorem trans (first : Touches hub middle id changed) (second : Touches middle next id last) :
    Touches hub next id last where
  wellFormed := second.wellFormed
  config := second.config.trans first.config
  own := second.own
  others := fun other different =>
    (second.others other different).trans (first.others other different)

theorem modify (wellFormed : hub.WellFormed) (found : hub.get? id = some connection)
    (change : Connection → Connection)
    (keepsId : ∀ connection, (change connection).id = connection.id) :
    Touches hub (hub.modify id change) id (change connection) := by
  refine (effect_modify wellFormed id change keepsId).touches ?_
  have standing_connection : (hub.standing id).connection = some connection := found
  rw [Standing.amend, standing_connection, Option.map_some]

theorem put (wellFormed : hub.WellFormed) (found : hub.get? id = some connection)
    (sameId : changed.id = connection.id) : Touches hub (hub.put changed) id changed := by
  rw [put_eq_modify_of_id wellFormed found sameId]
  have touched := modify wellFormed found (fun stored => { changed with id := stored.id })
    fun _ => rfl
  simpa [← sameId] using touched

theorem reportCrossing (touches : Touches hub next id changed) (crossing : Option Crossing) :
    Touches hub (next.reportCrossing id crossing) id changed := by
  have reported := effect_reportCrossing touches.wellFormed id crossing
  refine touches.trans ⟨reported.wellFormed, reported.config, ?_, fun other _ =>
    reported.standing other⟩
  exact (congrArg Standing.connection (reported.standing id)).trans touches.own

end Touches

end Hub

namespace Session

variable {hub next : Hub} {session after : Session} {connection : Connection} {now : Instant}

theorem controls_of_takeControl {taken : Connection} {message : Outgoing}
    (takes : takeControl connection = some (taken, message)) :
    ∃ payload rest, connection.control.waiting = payload :: rest ∧ message = .control payload ∧
      taken = { connection with control := { connection.control with waiting := rest } } := by
  obtain ⟨taken_eq, payload, rest, waiting, message_eq, -⟩ := takeControl_eq_some takes
  refine ⟨payload, rest, waiting, message_eq, ?_⟩
  rw [taken_eq, Upkeep.apply, ControlQueue.receive?, waiting]

theorem takeControl_eq_none (takes : takeControl connection = none) :
    connection.control.waiting = [] := by
  cases waiting : connection.control.waiting with
  | nil => rfl
  | cons payload rest => simp [takeControl, ControlQueue.receive?, waiting] at takes

theorem takeEvent_eq_none (takes : takeEvent connection = none) :
    connection.buffer.queue = [] := by
  cases waiting : connection.buffer.queue with
  | nil => rfl
  | cons payload rest =>
      simp [takeEvent, Connection.dequeue, Buffer.dequeue, waiting] at takes

section Steps

variable (wellFormed : hub.WellFormed) (found : hub.get? session.id = some connection)
include wellFormed found

theorem touches_endSending : hub.Touches (endSending hub session).1 session.id
    (Client.stopped ⟨connection, session⟩).connection :=
  .modify wellFormed found
    (fun connection => { connection with control := connection.control.drop })
    fun _ => rfl

theorem touches_beginDraining (reason : CloseReason) :
    hub.Touches (hub.beginDraining session.id reason).1 session.id
      (connection.beginDraining reason).1 := by
  refine (Hub.effect_beginDraining wellFormed session.id reason).touches ?_
  have standing_connection : (hub.standing session.id).connection = some connection := found
  rw [Standing.beginDraining, Standing.amend, standing_connection, Option.map_some]

theorem moves_deliverStep (now : Instant) (delivering : session.send = .delivering) :
    ∃ changed, hub.Touches (deliverStep now hub session connection).1 session.id changed ∧
      Client.Sends now hub.config ⟨connection, session⟩
        ⟨changed, (deliverStep now hub session connection).2⟩ := by
  rw [deliverStep]
  split
  · rename_i cancelled
    exact ⟨connection, .refl wellFormed found, .startsFlush (Or.inl delivering) cancelled⟩
  · rename_i uncancelled
    have uncancelled : connection.cancelled = false := by simpa using uncancelled
    rw [takeNext]
    cases control : takeControl connection with
    | some received =>
        obtain ⟨taken, message⟩ := received
        obtain ⟨payload, rest, waiting, rfl, rfl⟩ := controls_of_takeControl control
        have sameId : { connection with
            control := { connection.control with waiting := rest } }.id = connection.id := rfl
        exact ⟨_, (Hub.Touches.put wellFormed found sameId).reportCrossing none,
          .takesControl delivering uncancelled waiting⟩
    | none =>
        have silent := takeControl_eq_none control
        cases event : takeEvent connection with
        | some received =>
            obtain ⟨taken, message, crossing⟩ := received
            obtain ⟨rfl, payload, rfl, waiting⟩ := takeEvent_eq_some event
            have touches : hub.Touches (hub.put connection.dequeue.1) session.id _ :=
              .put wellFormed found rfl
            exact ⟨_, touches.reportCrossing crossing,
              .takesEvent delivering uncancelled silent waiting⟩
        | none =>
            exact ⟨connection, .refl wellFormed found,
              .rests delivering uncancelled silent (takeEvent_eq_none event)⟩

theorem moves_restStep {wake : Instant} (resting : session.send = .resting wake)
    (steps : restStep now wake hub session connection = some (next, after)) :
    ∃ changed, hub.Touches next session.id changed ∧
      Client.Sends now hub.config ⟨connection, session⟩ ⟨changed, after⟩ := by
  rw [restStep] at steps
  split at steps
  · rename_i cancelled
    cases steps
    exact ⟨connection, .refl wellFormed found, .startsFlush (Or.inr ⟨wake, resting⟩) cancelled⟩
  · rename_i uncancelled
    split at steps
    · rename_i due
      cases steps
      refine ⟨connection, .refl wellFormed found, .wakes resting (by simpa using uncancelled) ?_⟩
      simpa using due
    · cases steps

theorem moves_writeStep {message : Outgoing} (holds : session.send = .writing message)
    (steps : writeStep hub session message = some (next, after)) :
    ∃ changed, hub.Touches next session.id changed ∧
      Client.Sends now hub.config ⟨connection, session⟩ ⟨changed, after⟩ := by
  rw [writeStep] at steps
  split at steps
  · rename_i sink written
    cases steps
    have move : Client.Sends now hub.config ⟨connection, session⟩ _ := .writes holds written
    exact ⟨connection, .refl wellFormed found, move⟩
  · rename_i failed
    cases steps
    have drained := touches_beginDraining wellFormed found .clientInitiated
    have stopped := touches_endSending drained.wellFormed drained.own
    exact ⟨_, drained.trans stopped, .fails holds failed⟩
  · cases steps

theorem moves_flushControlStep (now : Instant) {deadline : Instant}
    (flushing : session.send = .flushingControl deadline) :
    ∃ changed, hub.Touches (flushControlStep deadline hub session connection).1 session.id
        changed ∧
      Client.Sends now hub.config ⟨connection, session⟩
        ⟨changed, (flushControlStep deadline hub session connection).2⟩ := by
  rw [flushControlStep]
  cases control : takeControl connection with
  | some received =>
      obtain ⟨taken, message⟩ := received
      obtain ⟨payload, rest, waiting, rfl, rfl⟩ := controls_of_takeControl control
      exact ⟨_, .put wellFormed found rfl, .flushesControl flushing waiting⟩
  | none =>
      exact ⟨connection, .refl wellFormed found,
        .turnsToEvents flushing (takeControl_eq_none control)⟩

theorem moves_flushEventStep (now : Instant) {deadline : Instant}
    (flushing : session.send = .flushingEvents deadline) :
    ∃ changed, hub.Touches (flushEventStep now deadline hub session connection).1 session.id
        changed ∧
      Client.Sends now hub.config ⟨connection, session⟩
        ⟨changed, (flushEventStep now deadline hub session connection).2⟩ := by
  rw [flushEventStep]
  cases event : takeEvent connection with
  | some received =>
      obtain ⟨taken, message, crossing⟩ := received
      obtain ⟨rfl, payload, rfl, waiting⟩ := takeEvent_eq_some event
      exact ⟨_, .put wellFormed found rfl, .flushesEvent flushing waiting⟩
  | none =>
      exact ⟨connection, .refl wellFormed found,
        .startsFarewell flushing (takeEvent_eq_none event)⟩

theorem moves_flushWriteStep {message : Outgoing} {deadline : Instant}
    (holds : session.send = .flushWriting message deadline)
    (steps : flushWriteStep now deadline hub session message = some (next, after)) :
    ∃ changed, hub.Touches next session.id changed ∧
      Client.Sends now hub.config ⟨connection, session⟩ ⟨changed, after⟩ := by
  rw [flushWriteStep] at steps
  split at steps
  · rename_i sink written
    cases steps
    have move : Client.Sends now hub.config ⟨connection, session⟩ _ := .flushWrites holds written
    exact ⟨connection, .refl wellFormed found, move⟩
  · rename_i failed
    cases steps
    exact ⟨_, touches_endSending wellFormed found, .flushFails holds failed⟩
  · rename_i full
    split at steps
    · rename_i late
      cases steps
      exact ⟨connection.clear, .modify wellFormed found Connection.clear fun _ => rfl,
        .timesOut holds full late⟩
    · cases steps

theorem moves_farewellStep {deadline : Instant} (leaving : session.send = .farewell deadline)
    (steps : farewellStep now deadline hub session connection = some (next, after)) :
    ∃ changed, hub.Touches next session.id changed ∧
      Client.Sends now hub.config ⟨connection, session⟩ ⟨changed, after⟩ := by
  rw [farewellStep] at steps
  split at steps
  · rename_i sink written
    cases steps
    have move : Client.Sends now hub.config ⟨connection, session⟩ _ := .closes leaving written
    exact ⟨_, touches_endSending wellFormed found, move⟩
  · rename_i failed
    cases steps
    exact ⟨_, touches_endSending wellFormed found, .leaves leaving (Or.inl failed)⟩
  · rename_i full
    split at steps
    · rename_i late
      cases steps
      exact ⟨_, touches_endSending wellFormed found,
        .leaves leaving (Or.inr ⟨full, late⟩)⟩
    · cases steps

theorem moves_sendStep (steps : session.sendStep now hub = some (next, after)) :
    ∃ changed, hub.Touches next session.id changed ∧
      Client.Sends now hub.config ⟨connection, session⟩ ⟨changed, after⟩ := by
  rw [sendStep, found] at steps
  simp only at steps
  split at steps
  · rename_i delivering
    have moves := moves_deliverStep wellFormed found now delivering
    rw [Option.some.inj steps] at moves
    exact moves
  · rename_i wake resting
    exact moves_restStep wellFormed found resting steps
  · rename_i message holds
    exact moves_writeStep wellFormed found holds steps
  · rename_i deadline flushing
    have moves := moves_flushControlStep wellFormed found now flushing
    rw [Option.some.inj steps] at moves
    exact moves
  · rename_i deadline flushing
    have moves := moves_flushEventStep wellFormed found now flushing
    rw [Option.some.inj steps] at moves
    exact moves
  · rename_i message deadline holds
    exact moves_flushWriteStep wellFormed found holds steps
  · rename_i deadline leaving
    exact moves_farewellStep wellFormed found leaving steps
  · cases steps

end Steps

/-! The other two loops. -/

theorem touches_reply (wellFormed : hub.WellFormed) {id : ConnectionId}
    (found : hub.get? id = some connection) (message : ServerMessage) :
    ∃ kept, hub.Touches (reply hub id message) id kept ∧ connection.Keeps kept := by
  simp only [reply, found]
  cases sends : connection.sendControl message with
  | error cause => exact ⟨connection, .refl wellFormed found, .refl connection⟩
  | ok sent =>
      obtain ⟨control, queued, rfl⟩ := Connection.sendControl_eq_ok sends
      have keeps : connection.Keeps { connection with control } :=
        Connection.keeps_of_send (Or.inr queued)
      exact ⟨_, .put wellFormed found keeps.id, keeps⟩

theorem touches_handleText (wellFormed : hub.WellFormed) {id : ConnectionId}
    (found : hub.get? id = some connection) (text : String) :
    ∃ kept, hub.Touches (handleText now hub id text) id kept ∧ connection.Keeps kept := by
  have standing_connection : (hub.standing id).connection = some connection := found
  simp only [handleText]
  cases ClientCommand.parse text with
  | error cause => exact ⟨connection, .refl wellFormed found, .refl connection⟩
  | ok command =>
      cases command with
      | pong =>
          exact ⟨connection.recordPong now,
            .modify wellFormed found (fun connection => connection.recordPong now) fun _ => rfl,
            Upkeep.keeps_apply (.pong now) rfl connection⟩
      | subscribe events clusters =>
          have subscribed : hub.Touches (hub.subscribe id events clusters).1 id connection := by
            refine (Hub.effect_subscribe wellFormed id events clusters).touches ?_
            rw [Standing.connection_subscribe, standing_connection]
          obtain ⟨kept, replied, keeps⟩ :=
            touches_reply subscribed.wellFormed subscribed.own _
          exact ⟨kept, subscribed.trans replied, keeps⟩
      | unsubscribe events =>
          have unsubscribed : hub.Touches (hub.unsubscribe id events).1 id connection :=
            (Hub.effect_unsubscribe wellFormed id events).touches standing_connection
          obtain ⟨kept, replied, keeps⟩ :=
            touches_reply unsubscribed.wellFormed unsubscribed.own _
          exact ⟨kept, unsubscribed.trans replied, keeps⟩

theorem moves_receiveStep (wellFormed : hub.WellFormed)
    (found : hub.get? session.id = some connection)
    (steps : session.receiveStep now hub = some (next, after)) :
    ∃ changed, hub.Touches next session.id changed ∧
      Client.Receives ⟨connection, session⟩ ⟨changed, after⟩ := by
  rw [receiveStep, found] at steps
  split at steps
  · rename_i reading present
    cases present
    split at steps
    · rename_i cancelled
      cases steps
      exact ⟨connection, .refl wellFormed found, .stops reading .cancelled fun _ => cancelled⟩
    · split at steps
      · cases steps
      · rename_i content rest _
        cases steps
        obtain ⟨kept, touches, keeps⟩ := touches_handleText wellFormed found content
        exact ⟨kept, touches, .hears reading rest keeps⟩
      · rename_i rest _
        cases steps
        exact ⟨connection, .refl wellFormed found, .hears reading rest (.refl connection)⟩
      · cases steps
        exact ⟨connection, .refl wellFormed found,
          .stops reading .clientClosed (by intro cancelled; cases cancelled)⟩
      · cases steps
        exact ⟨connection, .refl wellFormed found,
          .stops reading .clientClosed (by intro cancelled; cases cancelled)⟩
      · cases steps
        exact ⟨connection, .refl wellFormed found,
          .stops reading .transportError (by intro cancelled; cases cancelled)⟩
  · cases steps

theorem moves_finish (wellFormed : hub.WellFormed)
    (found : hub.get? session.id = some connection) :
    (finish hub session).2 = { session with supervise := .over connection.reason } ∧
      ∃ kept, hub.Touches (finish hub session).1 session.id kept ∧ connection.Keeps kept := by
  have marked : hub.Touches (hub.modify session.id Connection.markFinished) session.id
      connection.markFinished := .modify wellFormed found Connection.markFinished fun _ => rfl
  have closes := Hub.effect_close marked.wellFormed session.id connection.reason
  obtain ⟨kept, becomes, keeps⟩ := (Standing.keeps_close
    ((hub.modify session.id Connection.markFinished).standing session.id) connection.reason).kept
    connection.markFinished marked.own
  have reason_eq : ((hub.get? session.id).map Connection.reason).getD .clientInitiated =
      connection.reason := by
    rw [found]
    rfl
  rw [finish, reason_eq]
  have finished : connection.Keeps connection.markFinished :=
    Upkeep.keeps_apply .finish rfl connection
  exact ⟨rfl, kept, marked.trans (closes.touches becomes), finished.trans keeps⟩

theorem moves_expire (wellFormed : hub.WellFormed)
    (found : hub.get? session.id = some connection) :
    ∃ changed, hub.Touches (expire hub session).1 session.id changed ∧
      Client.Expires ⟨connection, session⟩ ⟨changed, (expire hub session).2⟩ := by
  rw [expire]
  split
  · rename_i isOver
    obtain ⟨session_eq, kept, touches, keeps⟩ := moves_finish wellFormed found
    rw [session_eq]
    exact ⟨kept, touches, .finishes isOver keeps⟩
  · rename_i unfinished
    have abandoned := touches_endSending wellFormed found
    have isStopped : (endSending hub session).1.get? (endSending hub session).2.id = some _ :=
      abandoned.own
    obtain ⟨session_eq, kept, touches, keeps⟩ := moves_finish abandoned.wellFormed isStopped
    refine ⟨kept, abandoned.trans touches, ?_⟩
    rw [session_eq]
    exact .abandons unfinished keeps

theorem moves_beginEnding (now : Instant) (wellFormed : hub.WellFormed)
    (found : hub.get? session.id = some connection) (exit : ReceiveExit) :
    hub.Touches (beginEnding now hub session exit).1 session.id
        (Client.ending ⟨connection, session⟩ exit (now + sendGrace hub.config)).connection ∧
      (beginEnding now hub session exit).2 =
        (Client.ending ⟨connection, session⟩ exit (now + sendGrace hub.config)).session := by
  rw [beginEnding, Client.ending]
  split
  · exact ⟨.refl wellFormed found, rfl⟩
  · have drained := touches_beginDraining wellFormed found .clientInitiated
    exact ⟨drained, rfl⟩

theorem moves_superviseStep (wellFormed : hub.WellFormed)
    (found : hub.get? session.id = some connection)
    (steps : session.superviseStep now hub = some (next, after)) :
    ∃ changed, hub.Touches next session.id changed ∧
      Client.Supervises now hub.config ⟨connection, session⟩ ⟨changed, after⟩ := by
  simp only [superviseStep] at steps
  split at steps
  · rename_i exit receiving left
    obtain ⟨begun, session_eq⟩ := moves_beginEnding now wellFormed found exit
    split at steps
    · rename_i impatient
      have isEnding : (beginEnding now hub session exit).1.get?
          (beginEnding now hub session exit).2.id = some _ := begun.own
      obtain ⟨changed, touches, expires⟩ := moves_expire begun.wellFormed isEnding
      rw [Option.some.inj steps] at touches expires
      rw [session_eq] at expires
      exact ⟨changed, begun.trans touches, .quits receiving left impatient expires⟩
    · rename_i patient
      cases steps
      rw [session_eq]
      exact ⟨_, begun, .waits receiving left patient⟩
  · cases steps
  · rename_i deadline sending
    split at steps
    · rename_i due
      obtain ⟨changed, touches, expires⟩ := moves_expire wellFormed found
      rw [Option.some.inj steps] at touches expires
      exact ⟨changed, touches, .expires sending (by simpa using due) expires⟩
    · cases steps
  · cases steps

end Session

end EventHub
