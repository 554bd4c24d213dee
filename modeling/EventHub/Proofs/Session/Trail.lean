import EventHub.Proofs.Session.Progress

/-!
The events of one client on their way from the buffer to the sink: those written, the one in hand
and those that wait. A step of the send loop moves events on or loses them; it neither changes
their order nor repeats one.
-/

namespace EventHub

/-- What the text of an event begins with. -/
def Event.tag : List Char :=
  (Json.record [("type", .text "event")]).chars.dropLast

/-- Whether a text on the wire is an event; the hub's own messages carry other tags. -/
def isEventText (text : Payload) : Bool :=
  Event.tag.isPrefixOf text.toList

theorem Event.isEventText_toPayload (event : Event) : isEventText event.toPayload = true := by
  simp [isEventText, tag, toPayload, envelope, Json.print, Json.record, Json.chars,
    Json.memberChars, Json.quote, Json.escapeChar]

theorem ServerMessage.isEventText_toPayload (message : ServerMessage) :
    isEventText message.toPayload = false := by
  cases message <;>
    simp [isEventText, Event.tag, toPayload, json, Json.print, Json.record, Json.chars,
      Json.memberChars, Json.quote, Json.escapeChar, List.isPrefixOf]

def Untagged (payloads : List Payload) : Prop :=
  ∀ payload ∈ payloads, isEventText payload = false

def Outbound.eventText? : Outbound → Option Payload
  | text payload => if isEventText payload then some payload else none
  | close _ | finished => none

def Outgoing.events : Outgoing → List Payload
  | event payload => [payload]
  | control _ => []

def Outgoing.controls : Outgoing → List Payload
  | event _ => []
  | control payload => [payload]

/-- The message that was taken and is not written yet. -/
def SendPhase.message? : SendPhase → Option Outgoing
  | .writing message | .flushWriting message _ => some message
  | .delivering | .resting _ | .flushingControl _ | .flushingEvents _ | .farewell _ | .over => none

theorem Sink.write_eq_done {sink next : Sink} {frame : Outbound}
    (writes : sink.write frame = .done next) :
    next = { sink with written := sink.written ++ [frame] } := by
  rw [write] at writes
  split at writes
  · cases writes
  · split at writes
    · cases writes
    · exact (Written.done.inj writes).symm

namespace Session

/-- The events that the client has got. -/
def spoken (session : Session) : List Payload :=
  session.sink.written.filterMap Outbound.eventText?

def inHand (session : Session) : List Payload :=
  session.send.message?.elim [] Outgoing.events

def controlInHand (session : Session) : List Payload :=
  session.send.message?.elim [] Outgoing.controls

def trail (session : Session) (hub : Hub) : List Payload :=
  session.spoken ++ session.inHand ++ (hub.standing session.id).queue

/-- A step moves the client's events on, in order and none of them twice, as long as no control
message passes for an event. -/
structure Passes (hub next : Hub) (session after : Session) : Prop where
  proceeds : hub.Proceeds next
  id : after.id = session.id
  controls : ∀ payload ∈ after.controlInHand,
    payload ∈ session.controlInHand ∨ payload ∈ (hub.standing session.id).controls
  trail : Untagged session.controlInHand → (after.trail next).Sublist (session.trail hub)

variable {hub next : Hub} {session after : Session} {now : Instant}

theorem Passes.reportCrossing (passes : Passes hub next session after) (id : ConnectionId)
    (crossing : Option Crossing) : Passes hub (next.reportCrossing id crossing) session after := by
  have proceeds := passes.proceeds.reportCrossing id crossing
  cases crossing with
  | none => exact passes
  | some crossing => exact ⟨proceeds, passes.id, passes.controls, passes.trail⟩

/-- A step that leaves nothing in hand. -/
theorem Passes.of_empty (wellFormed : hub.WellFormed) (proceeds : hub.Proceeds next)
    (id : after.id = session.id) (spoken : after.spoken = session.spoken)
    (empty : after.send.message? = none) : Passes hub next session after where
  proceeds := proceeds
  id := id
  controls := by
    rw [controlInHand, empty]
    exact fun _ absent => nomatch absent
  trail := by
    intro _
    have queue := (proceeds.dwindles wellFormed session.id).queue.sublist
    rw [Session.trail, Session.trail, id, spoken, inHand, empty, Option.elim_none,
      List.append_nil, List.append_assoc]
    exact (queue.trans (List.sublist_append_right _ _)).append_left session.spoken

/-- A step that leaves the send loop and the sink alone. -/
theorem Passes.of_same (wellFormed : hub.WellFormed) (proceeds : hub.Proceeds next)
    (id : after.id = session.id) (spoken : after.spoken = session.spoken)
    (send : after.send = session.send) : Passes hub next session after where
  proceeds := proceeds
  id := id
  controls := by
    rw [controlInHand, send]
    exact fun _ => Or.inl
  trail := by
    intro _
    have queue := (proceeds.dwindles wellFormed session.id).queue.sublist
    rw [Session.trail, Session.trail, id, spoken, inHand, send, inHand]
    exact queue.append_left _

theorem passes_endSending (wellFormed : hub.WellFormed) (proceeds : hub.Proceeds next)
    (spoken : after.spoken = session.spoken) (id : after.id = session.id) :
    Passes hub (endSending next after).1 session (endSending next after).2 :=
  .of_empty wellFormed (proceeds.trans (proceeds_endSending next after)) id spoken rfl

theorem spoken_write {sink : Sink} {message : Outgoing} {phase : SendPhase}
    (writes : session.sink.write (.text message.payload) = .done sink) :
    ({ session with sink, send := phase } : Session).spoken =
      session.spoken ++ (if isEventText message.payload then [message.payload] else []) := by
  cases Sink.write_eq_done writes
  rw [spoken, List.filterMap_append]
  congr 1
  cases isEvent : isEventText message.payload with
  | true => simp [Outbound.eventText?, isEvent]
  | false => simp [Outbound.eventText?, isEvent]

theorem passes_write {sink : Sink} {message : Outgoing} {phase : SendPhase}
    (writes : session.sink.write (.text message.payload) = .done sink)
    (holds : session.send.message? = some message) (empty : phase.message? = none) :
    Passes hub hub session { session with sink, send := phase } where
  proceeds := .refl hub
  id := rfl
  controls := by
    rw [controlInHand, empty]
    exact fun _ absent => nomatch absent
  trail := by
    intro untagged
    have said : (if isEventText message.payload then [message.payload] else []).Sublist
        message.events := by
      cases message with
      | event payload =>
          rw [Outgoing.payload, Outgoing.events]
          split
          · exact .refl _
          · exact List.nil_sublist _
      | control payload =>
          have noEvent := untagged payload (by simp [controlInHand, holds, Outgoing.controls])
          simp [Outgoing.payload, noEvent]
    rw [trail, trail, spoken_write writes, inHand, empty, inHand, holds, Option.elim_none,
      Option.elim_some, List.append_nil]
    exact (said.append_left session.spoken).append_right _

theorem passes_takeControl {connection taken : Connection} {message : Outgoing}
    {phase : SendPhase} (wellFormed : hub.WellFormed)
    (found : hub.get? session.id = some connection)
    (takes : takeControl connection = some (taken, message)) (empty : session.send.message? = none)
    (holds : phase.message? = some message) :
    Passes hub (hub.put taken) session { session with send := phase } := by
  obtain ⟨taken_eq, payload, rest, queued, message_eq, -⟩ := takeControl_eq_some takes
  have proceeds := Hub.Proceeds.put_upkeep wellFormed found .receiveControl
  rw [← taken_eq] at proceeds
  have queue := (proceeds.dwindles wellFormed session.id).queue
  refine ⟨proceeds, rfl, ?_, ?_⟩
  · intro held member
    rw [controlInHand, holds, message_eq] at member
    rw [List.mem_singleton.1 member]
    simp [Hub.standing, Standing.controls, found, queued]
  · intro _
    rw [trail, trail, inHand, holds, inHand, empty, message_eq]
    simpa [Outgoing.events, spoken] using queue.sublist

theorem passes_takeEvent {connection taken : Connection} {message : Outgoing}
    {crossing : Option Crossing} {phase : SendPhase} (wellFormed : hub.WellFormed)
    (found : hub.get? session.id = some connection)
    (takes : takeEvent connection = some (taken, message, crossing))
    (empty : session.send.message? = none) (holds : phase.message? = some message) :
    Passes hub (hub.put taken) session { session with send := phase } := by
  obtain ⟨taken_eq, payload, message_eq, queue⟩ := takeEvent_eq_some takes
  have proceeds := Hub.Proceeds.put_dequeue wellFormed found
  rw [← taken_eq] at proceeds
  have put : (hub.put taken).get? session.id = some taken := by
    rw [taken_eq, Hub.put_eq_modify wellFormed found (fun connection => connection.dequeue.1) rfl]
    have modified := (Hub.effect_modify wellFormed session.id
      (fun connection => connection.dequeue.1) fun _ => rfl).standing session.id
    rw [Standing.onlyAt_self] at modified
    have connection_eq := congrArg Standing.connection modified
    simpa [Hub.standing, Standing.amend, found] using connection_eq
  refine ⟨proceeds, rfl, ?_, ?_⟩
  · rw [controlInHand, holds, message_eq]
    intro _ absent
    cases absent
  · intro _
    rw [trail, trail, inHand, holds, inHand, empty, message_eq]
    simp [Outgoing.events, spoken, Hub.standing, Standing.queue, found, put, queue]

theorem passes_deliverStep (now : Instant) (wellFormed : hub.WellFormed) {connection : Connection}
    (found : hub.get? session.id = some connection) (empty : session.send.message? = none) :
    Passes hub (deliverStep now hub session connection).1 session
      (deliverStep now hub session connection).2 := by
  rw [deliverStep]
  split
  · exact .of_empty wellFormed (.refl hub) rfl rfl rfl
  · split
    · rename_i taken message crossing takes
      simp only [takeNext] at takes
      cases control : takeControl connection with
      | some received =>
          rw [control] at takes
          cases takes
          have passes : Passes hub (hub.put received.1) session
              { session with send := .writing received.2 } :=
            passes_takeControl wellFormed found control empty rfl
          exact passes.reportCrossing session.id none
      | none =>
          rw [control] at takes
          have passes : Passes hub (hub.put taken) session
              { session with send := .writing message } :=
            passes_takeEvent wellFormed found takes empty rfl
          exact passes.reportCrossing session.id crossing
    · exact .of_empty wellFormed (.refl hub) rfl rfl rfl

theorem passes_restStep (wellFormed : hub.WellFormed) {connection : Connection} {wake : Instant}
    (steps : restStep now wake hub session connection = some (next, after)) :
    Passes hub next session after := by
  rw [restStep] at steps
  split at steps
  · cases steps
    exact .of_empty wellFormed (.refl hub) rfl rfl rfl
  · split at steps
    · cases steps
      exact .of_empty wellFormed (.refl hub) rfl rfl rfl
    · cases steps

theorem passes_writeStep (wellFormed : hub.WellFormed) {message : Outgoing}
    (holds : session.send.message? = some message)
    (steps : writeStep hub session message = some (next, after)) :
    Passes hub next session after := by
  rw [writeStep] at steps
  split at steps
  · rename_i sink writes
    cases steps
    exact passes_write writes holds rfl
  · cases steps
    exact passes_endSending wellFormed (proceeds_beginDraining hub session.id .clientInitiated) rfl
      rfl
  · cases steps

theorem passes_flushControlStep (deadline : Instant) (wellFormed : hub.WellFormed)
    {connection : Connection} (found : hub.get? session.id = some connection)
    (empty : session.send.message? = none) :
    Passes hub (flushControlStep deadline hub session connection).1 session
      (flushControlStep deadline hub session connection).2 := by
  rw [flushControlStep]
  split
  · rename_i taken message takes
    exact passes_takeControl wellFormed found takes empty rfl
  · exact .of_empty wellFormed (.refl hub) rfl rfl rfl

theorem passes_flushEventStep (now deadline : Instant) (wellFormed : hub.WellFormed)
    {connection : Connection} (found : hub.get? session.id = some connection)
    (empty : session.send.message? = none) :
    Passes hub (flushEventStep now deadline hub session connection).1 session
      (flushEventStep now deadline hub session connection).2 := by
  rw [flushEventStep]
  split
  · rename_i taken message crossing takes
    exact passes_takeEvent wellFormed found takes empty rfl
  · exact .of_empty wellFormed (.refl hub) rfl rfl rfl

theorem passes_flushWriteStep (wellFormed : hub.WellFormed) {message : Outgoing}
    {deadline : Instant} (holds : session.send.message? = some message)
    (steps : flushWriteStep now deadline hub session message = some (next, after)) :
    Passes hub next session after := by
  rw [flushWriteStep] at steps
  split at steps
  · rename_i sink writes
    cases steps
    refine passes_write writes holds ?_
    cases message with
    | control payload => rfl
    | event payload => rfl
  · cases steps
    exact passes_endSending wellFormed (.refl hub) rfl rfl
  · split at steps
    · cases steps
      exact .of_empty wellFormed (proceeds_clear hub session.id) rfl rfl rfl
    · cases steps

theorem passes_farewellStep (wellFormed : hub.WellFormed) {connection : Connection}
    {deadline : Instant}
    (steps : farewellStep now deadline hub session connection = some (next, after)) :
    Passes hub next session after := by
  rw [farewellStep] at steps
  split at steps
  · rename_i sink writes
    cases steps
    refine passes_endSending wellFormed (.refl hub) ?_ rfl
    cases Sink.write_eq_done writes
    simp [spoken, Sink.finish, Outbound.eventText?]
  · cases steps
    exact passes_endSending wellFormed (.refl hub) rfl rfl
  · split at steps
    · cases steps
      exact passes_endSending wellFormed (.refl hub) rfl rfl
    · cases steps

theorem passes_sendStep (wellFormed : hub.WellFormed)
    (steps : session.sendStep now hub = some (next, after)) : Passes hub next session after := by
  rw [sendStep] at steps
  split at steps
  · cases steps
  · rename_i connection found
    split at steps
    · rename_i phase
      have delivered := passes_deliverStep now wellFormed found (by rw [phase]; rfl)
      rw [Option.some.inj steps] at delivered
      exact delivered
    · exact passes_restStep wellFormed steps
    · rename_i message phase
      exact passes_writeStep wellFormed (by rw [phase]; rfl) steps
    · rename_i deadline phase
      have flushed := passes_flushControlStep deadline wellFormed found (by rw [phase]; rfl)
      rw [Option.some.inj steps] at flushed
      exact flushed
    · rename_i deadline phase
      have flushed := passes_flushEventStep now deadline wellFormed found (by rw [phase]; rfl)
      rw [Option.some.inj steps] at flushed
      exact flushed
    · rename_i message deadline phase
      exact passes_flushWriteStep wellFormed (by rw [phase]; rfl) steps
    · exact passes_farewellStep wellFormed steps
    · cases steps

theorem passes_receiveStep (wellFormed : hub.WellFormed)
    (steps : session.receiveStep now hub = some (next, after)) : Passes hub next session after := by
  obtain ⟨proceeds, id, send, sink⟩ := proceeds_receiveStep wellFormed steps
  exact .of_same wellFormed proceeds id (by rw [spoken, sink, spoken]) send

theorem passes_superviseStep (wellFormed : hub.WellFormed)
    (steps : session.superviseStep now hub = some (next, after)) :
    Passes hub next session after := by
  obtain ⟨id, sink, send⟩ := session_superviseStep steps
  have spoken_eq : after.spoken = session.spoken := by rw [spoken, sink, spoken]
  rcases send with same | stopped
  · exact .of_same wellFormed (proceeds_superviseStep steps) id spoken_eq same
  · exact .of_empty wellFormed (proceeds_superviseStep steps) id spoken_eq (by rw [stopped]; rfl)

end Session

end EventHub
