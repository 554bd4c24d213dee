import EventHub.Proofs.Session.Moves

/-!
What a session writes to a sink that takes everything. The texts that are written, the one in hand
and the control messages that wait only ever grow at their end; once a close was asked for, these,
the events that are left and the close frame make up the rest of the output.
-/

namespace EventHub

namespace SendPhase

/-- A control message that comes in now will still be written. -/
def heeds : SendPhase → Bool
  | .delivering | .resting _ | .writing _ | .flushingControl _ | .flushWriting (.control _) _ =>
      true
  | .flushWriting (.event _) _ | .flushingEvents _ | .farewell _ | .over => false

def isFlush : SendPhase → Bool
  | .delivering | .resting _ | .writing _ => false
  | .flushingControl _ | .flushWriting _ _ | .flushingEvents _ | .farewell _ | .over => true

theorem isFlush_of_not_heeds {phase : SendPhase} (past : phase.heeds = false) :
    phase.isFlush = true := by
  cases phase with
  | flushWriting message deadline => rfl
  | flushingEvents deadline => rfl
  | farewell deadline => rfl
  | «over» => rfl
  | _ => cases past

def isEmptied : SendPhase → Bool
  | .farewell _ | .over => true
  | .delivering | .resting _ | .writing _ | .flushingControl _ | .flushWriting _ _
  | .flushingEvents _ => false

end SendPhase

def Outbound.text? : Outbound → Option Payload
  | text payload => some payload
  | close _ | finished => none

/-- Takes every frame at once. -/
def Sink.Unlimited (sink : Sink) : Prop :=
  sink.failAfter = none ∧ sink.stallAfter = none

theorem Sink.write_of_unlimited {sink : Sink} (unlimited : sink.Unlimited) (frame : Outbound) :
    sink.write frame = .done { sink with written := sink.written ++ [frame] } := by
  simp [write, isFull, refuses, unlimited.1, unlimited.2]

theorem Sink.Unlimited.ne_failed {sink : Sink} (unlimited : sink.Unlimited) (frame : Outbound) :
    sink.write frame ≠ .failed := by
  rw [write_of_unlimited unlimited]
  exact nofun

theorem Sink.Unlimited.ne_full {sink : Sink} (unlimited : sink.Unlimited) (frame : Outbound) :
    sink.write frame ≠ .full := by
  rw [write_of_unlimited unlimited]
  exact nofun

namespace Client

def texts (client : Client) : List Payload :=
  client.session.sink.written.filterMap Outbound.text?

/-- The text of the message in hand. -/
def inHand (client : Client) : List Payload :=
  client.session.send.message?.toList.map Outgoing.payload

def waiting (client : Client) : List Payload :=
  client.connection.control.waiting

def queue (client : Client) : List Payload :=
  client.connection.buffer.queue

/-- The texts that go out before any event that is still buffered. -/
def ahead (client : Client) : List Payload :=
  client.texts ++ client.inHand ++ if client.session.send.heeds then client.waiting else []

/-- How a client stands whose sink takes everything: the session's phases are in step with the
close of the connection, and what is written is texts, with the farewell at the end. -/
structure Orderly (now : Instant) (client : Client) : Prop where
  unlimited : client.session.sink.Unlimited
  asked : client.connection.cancelled = !client.connection.isOpen
  flushing : client.session.send.isFlush = true → client.connection.cancelled = true
  emptied : client.session.send.isEmptied = true → client.queue = []
  texting : client.session.send ≠ .over →
    client.session.sink.written = client.texts.map Outbound.text
  closed : client.session.send = .over →
    client.session.sink.written = client.texts.map Outbound.text ++
      [.close client.connection.reason.frame, .finished]
  heard : client.session.receive = .over .cancelled → client.connection.cancelled = true
  patient : ∀ deadline, client.session.supervise = .sending deadline →
    client.connection.cancelled = true ∧ (client.session.send = .over ∨ now < deadline)
  ended : ∀ reason, client.session.supervise = .over reason →
    client.session.send = .over ∧ client.connection.reason = reason

variable {now : Instant} {config : HubConfig} {client last : Client}

theorem texts_written {sink : Sink} {frame : Outbound}
    (written : client.session.sink.write frame = .done sink)
    (unlimited : client.session.sink.Unlimited) :
    sink.Unlimited ∧ sink.written = client.session.sink.written ++ [frame] := by
  rw [Sink.write_of_unlimited unlimited] at written
  cases written
  exact ⟨unlimited, rfl⟩

namespace Orderly

theorem isOpen_of_cancelled (orderly : client.Orderly now)
    (cancelled : client.connection.cancelled = true) : client.connection.isOpen = false := by
  have asked := orderly.asked
  rw [cancelled] at asked
  simpa using asked.symm

theorem keeps (orderly : client.Orderly now) {kept : Connection}
    (keeps : client.connection.Keeps kept) :
    Orderly now { client with connection := kept } where
  unlimited := orderly.unlimited
  asked := keeps.asked orderly.asked
  flushing := fun flush => keeps.cancelled (orderly.flushing flush)
  emptied := by
    intro emptied
    rw [queue, keeps.buffer]
    exact orderly.emptied emptied
  texting := orderly.texting
  closed := by
    intro isOver
    have cancelled := orderly.flushing (by rw [isOver]; rfl)
    have reason := keeps.reason (orderly.isOpen_of_cancelled cancelled)
    rw [reason]
    exact orderly.closed isOver
  heard := fun heard => keeps.cancelled (orderly.heard heard)
  patient := by
    intro deadline sending
    obtain ⟨cancelled, inTime⟩ := orderly.patient deadline sending
    exact ⟨keeps.cancelled cancelled, inTime⟩
  ended := by
    intro reason closed
    obtain ⟨isOver, reason_eq⟩ := orderly.ended reason closed
    have cancelled := orderly.flushing (by rw [isOver]; rfl)
    exact ⟨isOver, (keeps.reason (orderly.isOpen_of_cancelled cancelled)).trans reason_eq⟩

theorem added (orderly : client.Orderly now) (opened : client.connection.isOpen = true)
    (payload : Payload) : (client.withEventAdded payload).Orderly now := by
  have uncancelled : client.connection.cancelled = false := by simpa [opened] using orderly.asked
  refine { orderly with emptied := fun emptied => ?_ }
  have flush : client.session.send.isFlush = true := by
    have emptied : client.session.send.isEmptied = true := emptied
    cases phase : client.session.send <;> simp_all [SendPhase.isEmptied, SendPhase.isFlush]
  rw [orderly.flushing flush] at uncancelled
  cases uncancelled

theorem turnTo (orderly : client.Orderly now) (going : client.session.send ≠ .over)
    {phase : SendPhase} (goesOn : phase ≠ .over)
    (flushing : phase.isFlush = true → client.connection.cancelled = true)
    (emptied : phase.isEmptied = true → client.queue = []) :
    (client.turnTo phase).Orderly now :=
  { orderly with
    flushing := flushing
    emptied := emptied
    texting := fun _ => orderly.texting going
    closed := fun isOver => absurd isOver goesOn
    patient := by
      intro deadline sending
      obtain ⟨cancelled, inTime⟩ := orderly.patient deadline sending
      exact ⟨cancelled, Or.inr (inTime.resolve_left going)⟩
    ended := fun reason closed => absurd (orderly.ended reason closed).1 going }

theorem withControls (orderly : client.Orderly now) (waiting : List Payload) :
    (client.withControls waiting).Orderly now :=
  { orderly with }

theorem withEventTaken (orderly : client.Orderly now)
    (unemptied : client.session.send.isEmptied = false) :
    client.withEventTaken.Orderly now :=
  { orderly with
    emptied := by
      intro emptied
      rw [show client.session.send.isEmptied = true from emptied] at unemptied
      cases unemptied }

theorem texts_wrote {sink : Sink} {payload : Payload}
    (written : client.session.sink.write (.text payload) = .done sink)
    (unlimited : client.session.sink.Unlimited) :
    (client.withSink sink).texts = client.texts ++ [payload] := by
  rw [texts, withSink, (texts_written written unlimited).2, List.filterMap_append]
  rfl

theorem texts_closed {sink : Sink} {frame : CloseFrame}
    (written : client.session.sink.write (.close frame) = .done sink)
    (unlimited : client.session.sink.Unlimited) :
    (client.withSink sink.finish).stopped.texts = client.texts := by
  simp [texts, stopped, withSink, Sink.finish, (texts_written written unlimited).2,
    Outbound.text?]

theorem wrote (orderly : client.Orderly now) (going : client.session.send ≠ .over)
    {sink : Sink} {payload : Payload}
    (written : client.session.sink.write (.text payload) = .done sink) :
    (client.withSink sink).Orderly now := by
  obtain ⟨unlimited, written_eq⟩ := texts_written written orderly.unlimited
  refine { orderly with
    unlimited := unlimited
    texting := fun _ => ?_
    closed := fun isOver => absurd isOver going }
  rw [texts_wrote written orderly.unlimited, List.map_append, ← orderly.texting going]
  exact written_eq

theorem sends (orderly : client.Orderly now) (move : client.Sends now config last) :
    last.Orderly now := by
  have unlimited := orderly.unlimited
  cases move with
  | startsFlush unflushed cancelled =>
      refine orderly.turnTo ?_ nofun (fun _ => cancelled) nofun
      rcases unflushed with phase | ⟨wake, phase⟩
      · simp [phase]
      · simp [phase]
  | takesControl delivering uncancelled waiting =>
      rename_i payload rest
      have going : client.session.send ≠ .over := by simp [delivering]
      exact (orderly.withControls rest).turnTo going nofun nofun nofun
  | takesEvent delivering uncancelled silent waiting =>
      have going : client.session.send ≠ .over := by simp [delivering]
      exact (orderly.withEventTaken (by rw [delivering]; rfl)).turnTo going nofun nofun nofun
  | rests delivering uncancelled silent idle =>
      exact orderly.turnTo (by simp [delivering]) nofun nofun nofun
  | wakes resting uncancelled due =>
      exact orderly.turnTo (by simp [resting]) nofun nofun nofun
  | writes holds written =>
      have going : client.session.send ≠ .over := by simp [holds]
      exact (orderly.wrote going written).turnTo going nofun nofun nofun
  | flushesControl flushing waiting =>
      rename_i deadline payload rest
      have going : client.session.send ≠ .over := by simp [flushing]
      have cancelled := orderly.flushing (by rw [flushing]; rfl)
      exact (orderly.withControls rest).turnTo going nofun (fun _ => cancelled) nofun
  | turnsToEvents flushing silent =>
      have cancelled := orderly.flushing (by rw [flushing]; rfl)
      exact orderly.turnTo (by simp [flushing]) nofun (fun _ => cancelled) nofun
  | flushesEvent flushing waiting =>
      have going : client.session.send ≠ .over := by simp [flushing]
      have cancelled := orderly.flushing (by rw [flushing]; rfl)
      exact (orderly.withEventTaken (by rw [flushing]; rfl)).turnTo going nofun
        (fun _ => cancelled) nofun
  | startsFarewell flushing idle =>
      have cancelled := orderly.flushing (by rw [flushing]; rfl)
      exact orderly.turnTo (by simp [flushing]) nofun (fun _ => cancelled) fun _ => idle
  | flushWrites holds written =>
      rename_i message deadline sink
      have going : client.session.send ≠ .over := by simp [holds]
      have cancelled := orderly.flushing (by rw [holds]; rfl)
      have wrote := orderly.wrote going written
      cases message with
      | control payload => exact wrote.turnTo going nofun (fun _ => cancelled) nofun
      | event payload => exact wrote.turnTo going nofun (fun _ => cancelled) nofun
  | closes leaving written =>
      have going : client.session.send ≠ .over := by simp [leaving]
      have cancelled := orderly.flushing (by rw [leaving]; rfl)
      have texts_eq := texts_closed written unlimited
      obtain ⟨unlimited, written_eq⟩ := texts_written written unlimited
      refine { orderly with
        unlimited := unlimited
        flushing := fun _ => cancelled
        emptied := fun _ => orderly.emptied (by rw [leaving]; rfl)
        texting := fun unfinished => absurd rfl unfinished
        closed := fun _ => ?_
        patient := fun deadline sending => ⟨(orderly.patient deadline sending).1, Or.inl rfl⟩
        ended := fun reason closed => absurd (orderly.ended reason closed).1 going }
      rw [texts_eq, ← orderly.texting going]
      simp [stopped, withSink, Sink.finish, written_eq]
      rfl
  | fails holds failed => exact absurd failed (unlimited.ne_failed _)
  | flushFails holds failed => exact absurd failed (unlimited.ne_failed _)
  | timesOut holds full late => exact absurd full (unlimited.ne_full _)
  | leaves leaving unwritten =>
      rcases unwritten with failed | ⟨full, late⟩
      · exact absurd failed (unlimited.ne_failed _)
      · exact absurd full (unlimited.ne_full _)

theorem drained (orderly : client.Orderly now) : client.drained.Orderly now :=
  orderly.keeps (client.connection.keeps_beginDraining .clientInitiated)

theorem ending (orderly : client.Orderly now) {exit : ReceiveExit} {deadline : Instant}
    (left : client.session.receive = .over exit) (later : now < deadline) :
    (client.ending exit deadline).Orderly now := by
  have waits {middle : Client} (middleOrderly : middle.Orderly now)
      (cancelled : middle.connection.cancelled = true) :
      Orderly now { middle with
        session := { middle.session with supervise := .sending deadline } } :=
    { middleOrderly with
      patient := by
        intro other sending
        cases sending
        exact ⟨cancelled, Or.inr later⟩
      ended := nofun }
  rw [Client.ending]
  split
  · rename_i isCancelled
    exact waits orderly (orderly.heard (isCancelled ▸ left))
  · exact waits orderly.drained (client.connection.cancelled_beginDraining .clientInitiated)

/-- The supervisor keeps order, and it never has to abandon the send loop. -/
theorem supervises (orderly : client.Orderly now) (patient : 0 < Session.sendGrace config)
    (move : client.Supervises now config last) : last.Orderly now := by
  cases move with
  | waits receiving left _ => exact orderly.ending left (Nat.lt_add_of_pos_right patient)
  | quits receiving left impatient expires => exact absurd impatient (Nat.ne_of_gt patient)
  | expires sending due expires =>
      rename_i deadline
      obtain ⟨cancelled, inTime⟩ := orderly.patient deadline sending
      cases expires with
      | finishes isOver keeps =>
          refine { orderly.keeps keeps with
            patient := nofun
            ended := ?_ }
          intro reason closed
          cases closed
          exact ⟨isOver, keeps.reason (orderly.isOpen_of_cancelled cancelled)⟩
      | abandons unfinished keeps =>
          have late := due.resolve_left unfinished
          exact absurd (inTime.resolve_left unfinished) (Nat.not_lt.2 late)

theorem turns (orderly : client.Orderly now) (patient : 0 < Session.sendGrace config)
    (turn : client.Turns now config last) : last.Orderly now := by
  cases turn with
  | sends move => exact orderly.sends move
  | receives move =>
      cases move with
      | stops reading exit cancelled =>
          refine { orderly with heard := ?_ }
          intro heard
          cases heard
          exact cancelled rfl
      | hears reading inbound keeps => exact { orderly.keeps keeps with }
  | supervises move => exact orderly.supervises patient move
  | gets inbound => exact { orderly with }
  | waits keeps => exact orderly.keeps keeps

end Orderly

/-- Something happens to the client that leaves its send loop and its queues alone. -/
structure SparesSending (client last : Client) : Prop where
  keeps : client.connection.Keeps last.connection
  send : last.session.send = client.session.send
  sink : last.session.sink = client.session.sink

/-- Apart from the moves of the send loop, nothing touches the send loop of an orderly client. -/
theorem Orderly.sends_or_spares (orderly : client.Orderly now)
    (patient : 0 < Session.sendGrace config) (turn : client.Turns now config last) :
    client.Sends now config last ∨ client.SparesSending last := by
  cases turn with
  | sends move => exact Or.inl move
  | receives move =>
      cases move with
      | stops reading exit cancelled => exact Or.inr ⟨.refl client.connection, rfl, rfl⟩
      | hears reading inbound keeps => exact Or.inr ⟨keeps, rfl, rfl⟩
  | supervises move =>
      right
      cases move with
      | waits receiving left _ =>
          rw [Client.ending]
          split
          · exact ⟨.refl client.connection, rfl, rfl⟩
          · exact ⟨client.connection.keeps_beginDraining .clientInitiated, rfl, rfl⟩
      | quits receiving left impatient expires => exact absurd impatient (Nat.ne_of_gt patient)
      | expires sending due expires =>
          cases expires with
          | finishes isOver keeps => exact ⟨keeps, rfl, rfl⟩
          | abandons unfinished keeps =>
              have inTime := (orderly.patient _ sending).2.resolve_left unfinished
              exact absurd inTime (Nat.not_lt.2 (due.resolve_left unfinished))
  | gets inbound => exact Or.inr ⟨.refl client.connection, rfl, rfl⟩
  | waits keeps => exact Or.inr ⟨keeps, rfl, rfl⟩

/-! The texts ahead. -/

theorem SparesSending.texts (spares : client.SparesSending last) : last.texts = client.texts := by
  rw [Client.texts, spares.sink, Client.texts]

theorem SparesSending.inHand (spares : client.SparesSending last) :
    last.inHand = client.inHand := by
  rw [Client.inHand, spares.send, Client.inHand]

theorem SparesSending.ahead (spares : client.SparesSending last) : client.ahead <+: last.ahead := by
  obtain ⟨added, waiting_eq, -⟩ := spares.keeps.controls
  rw [Client.ahead, Client.ahead, spares.texts, spares.inHand, spares.send,
    List.prefix_append_right_inj]
  split
  · exact ⟨added, waiting_eq.symm⟩
  · exact List.nil_prefix

theorem ahead_eq {phase : SendPhase} (send_eq : client.session.send = phase) :
    client.ahead = client.texts ++ phase.message?.toList.map Outgoing.payload ++
      if phase.heeds then client.waiting else [] := by
  rw [ahead, inHand, send_eq]

theorem ahead_turnTo (client : Client) (phase : SendPhase) :
    (client.turnTo phase).ahead = client.texts ++ phase.message?.toList.map Outgoing.payload ++
      if phase.heeds then client.waiting else [] := rfl

/-- What a move of the send loop makes of the output to come: it leaves it as it is, or it moves the
oldest event to the texts ahead, when no control message has to go first. -/
inductive Advances (client last : Client) : Prop where
  | stays (ahead : last.ahead = client.ahead) (queue : last.queue = client.queue)
      (heeds : last.session.send.heeds = true → client.session.send.heeds = true)
  | takes (payload : Payload) (queue : client.queue = payload :: last.queue)
      (ahead : last.ahead = client.ahead ++ [payload])
      (heeds : last.session.send.heeds = client.session.send.heeds)
      (unheard : client.connection.cancelled = false ∧ client.waiting = [] ∨
        client.session.send.heeds = false)

theorem queue_withEventTaken {payload : Payload} {rest : List Payload}
    (waiting : client.connection.buffer.queue = payload :: rest) :
    client.withEventTaken.queue = rest := by
  simp only [queue, withEventTaken, Connection.dequeue, Buffer.dequeue, waiting, Buffer.checkLow]
  split <;> rfl

theorem advances_sends (orderly : client.Orderly now) (move : client.Sends now config last) :
    client.Advances last := by
  have unlimited := orderly.unlimited
  cases move with
  | startsFlush unflushed cancelled =>
      rcases unflushed with phase | ⟨wake, phase⟩
      · exact .stays (by rw [ahead_turnTo, ahead_eq phase]; rfl) rfl (by rw [phase]; exact id)
      · exact .stays (by rw [ahead_turnTo, ahead_eq phase]; rfl) rfl (by rw [phase]; exact id)
  | takesControl delivering uncancelled waiting =>
      refine .stays ?_ rfl (by rw [delivering]; exact id)
      rw [ahead_turnTo, ahead_eq delivering]
      simp [SendPhase.message?, SendPhase.heeds, Client.waiting, waiting, withControls, texts,
        Outgoing.payload]
  | takesEvent delivering uncancelled silent waiting =>
      rename_i payload rest
      refine .takes payload ?_ ?_ (by rw [delivering]; rfl) (Or.inl ⟨uncancelled, silent⟩)
      · exact waiting.trans (congrArg (List.cons payload) (queue_withEventTaken waiting).symm)
      · rw [ahead_turnTo, ahead_eq delivering]
        simp [SendPhase.message?, SendPhase.heeds, Client.waiting, silent, withEventTaken, texts,
          Outgoing.payload]
        exact silent
  | rests delivering uncancelled silent idle =>
      exact .stays (by rw [ahead_turnTo, ahead_eq delivering]; rfl) rfl
        (by rw [delivering]; exact id)
  | wakes resting uncancelled due =>
      exact .stays (by rw [ahead_turnTo, ahead_eq resting]; rfl) rfl (by rw [resting]; exact id)
  | writes holds written =>
      refine .stays ?_ rfl (by rw [holds]; exact id)
      rw [ahead_turnTo, ahead_eq holds, Orderly.texts_wrote written unlimited]
      simp [SendPhase.message?, SendPhase.heeds, Client.waiting, withSink]
  | flushesControl flushing waiting =>
      refine .stays ?_ rfl (by rw [flushing]; exact id)
      rw [ahead_turnTo, ahead_eq flushing]
      simp [SendPhase.message?, SendPhase.heeds, Client.waiting, waiting, withControls, texts,
        Outgoing.payload]
  | turnsToEvents flushing silent =>
      refine .stays ?_ rfl fun heeds => absurd heeds Bool.false_ne_true
      rw [ahead_turnTo, ahead_eq flushing]
      simp [SendPhase.message?, SendPhase.heeds, Client.waiting, silent]
  | flushesEvent flushing waiting =>
      rename_i deadline payload rest
      refine .takes payload ?_ ?_ (by rw [flushing]; rfl) (Or.inr (by rw [flushing]; rfl))
      · exact waiting.trans (congrArg (List.cons payload) (queue_withEventTaken waiting).symm)
      · rw [ahead_turnTo, ahead_eq flushing]
        simp [SendPhase.message?, SendPhase.heeds, withEventTaken, texts, Outgoing.payload]
  | startsFarewell flushing idle =>
      exact .stays (by rw [ahead_turnTo, ahead_eq flushing]; rfl) rfl
        fun heeds => absurd heeds Bool.false_ne_true
  | flushWrites holds written =>
      rename_i message deadline sink
      cases message with
      | control payload =>
          refine .stays ?_ rfl (by rw [holds]; exact id)
          rw [ahead_turnTo, ahead_eq holds, Orderly.texts_wrote written unlimited]
          simp [SendPhase.message?, SendPhase.heeds, Session.flushAfter, Client.waiting, withSink]
      | event payload =>
          refine .stays ?_ rfl fun heeds => absurd heeds Bool.false_ne_true
          rw [ahead_turnTo, ahead_eq holds, Orderly.texts_wrote written unlimited]
          simp [SendPhase.message?, SendPhase.heeds, Session.flushAfter]
  | closes leaving written =>
      rename_i deadline sink
      refine .stays ?_ rfl fun heeds => absurd heeds Bool.false_ne_true
      have isOver : (client.withSink sink.finish).stopped.session.send = .over := rfl
      rw [ahead_eq leaving, ahead_eq isOver, Orderly.texts_closed written unlimited]
      rfl
  | fails holds failed => exact absurd failed (unlimited.ne_failed _)
  | flushFails holds failed => exact absurd failed (unlimited.ne_failed _)
  | timesOut holds full late => exact absurd full (unlimited.ne_full _)
  | leaves leaving unwritten =>
      rcases unwritten with failed | ⟨full, late⟩
      · exact absurd failed (unlimited.ne_failed _)
      · exact absurd full (unlimited.ne_full _)

/-- What is to go out ahead of the buffered events goes out as it stands; more may follow it. -/
theorem ahead_turns (orderly : client.Orderly now) (patient : 0 < Session.sendGrace config)
    (turn : client.Turns now config last) : client.ahead <+: last.ahead := by
  rcases orderly.sends_or_spares patient turn with move | spares
  · cases advances_sends orderly move with
    | stays ahead queue heeds =>
        exact ahead ▸ List.prefix_refl _
    | takes payload queue ahead heeds unheard => exact ⟨[payload], ahead.symm⟩
  · exact spares.ahead

/-! What is left when a close is asked for. -/

/-- After a close was asked for: `said` was ahead of the events then, and `events` were the events.
Control messages that come in before the flush turns to the events go in between. -/
inductive Flushes (said events : List Payload) (client : Client) : Prop where
  | controls (extra : List Payload)
      (messages : ∀ payload ∈ extra, ∃ message : ServerMessage, payload = message.toPayload)
      (heeds : client.session.send.heeds = true) (ahead : client.ahead = said ++ extra)
      (queue : client.queue = events)
  | events (extra : List Payload)
      (messages : ∀ payload ∈ extra, ∃ message : ServerMessage, payload = message.toPayload)
      (past : client.session.send.heeds = false)
      (line : client.ahead ++ client.queue = said ++ extra ++ events)

theorem flushes_advances {said events : List Payload}
    (cancelled : client.connection.cancelled = true) (advances : client.Advances last)
    (flushes : client.Flushes said events) : last.Flushes said events := by
  cases advances with
  | stays ahead_eq queue_eq heeds_of =>
      cases flushes with
      | controls extra messages heeds ahead queue =>
          cases still : last.session.send.heeds with
          | true =>
              exact .controls extra messages still (ahead_eq.trans ahead) (queue_eq.trans queue)
          | false => exact .events extra messages still (by rw [ahead_eq, ahead, queue_eq, queue])
      | events extra messages past line =>
          refine .events extra messages ?_ (by rw [ahead_eq, queue_eq, line])
          exact Bool.eq_false_iff.2 fun heeds => by simp [heeds_of heeds] at past
  | takes payload queue_eq ahead_eq heeds_eq unheard =>
      have past : client.session.send.heeds = false := by
        rcases unheard with ⟨uncancelled, -⟩ | past
        · simp [cancelled] at uncancelled
        · exact past
      cases flushes with
      | controls extra messages heeds ahead queue => simp [past] at heeds
      | events extra messages _ line =>
          refine .events extra messages (heeds_eq.trans past) ?_
          rw [ahead_eq, ← line, queue_eq, List.append_assoc, List.singleton_append]

theorem flushes_turns {said events : List Payload} (orderly : client.Orderly now)
    (patient : 0 < Session.sendGrace config) (cancelled : client.connection.cancelled = true)
    (turn : client.Turns now config last) (flushes : client.Flushes said events) :
    last.Flushes said events := by
  rcases orderly.sends_or_spares patient turn with move | spares
  · exact flushes_advances cancelled (advances_sends orderly move) flushes
  · obtain ⟨added, waiting_eq, sent⟩ := spares.keeps.controls
    have queue_eq : last.queue = client.queue := by
      rw [Client.queue, spares.keeps.buffer, Client.queue]
    cases flushes with
    | controls extra messages heeds ahead queue =>
        refine .controls (extra ++ added) ?_ (by rw [spares.send, heeds]) ?_ (queue_eq.trans queue)
        · intro payload member
          rcases List.mem_append.1 member with member | member
          · exact messages payload member
          · exact sent payload member
        · rw [← List.append_assoc, ← ahead, Client.ahead, Client.ahead, spares.texts,
            spares.inHand, spares.send, heeds]
          simp [Client.waiting, waiting_eq]
    | events extra messages past line =>
        refine .events extra messages (by rw [spares.send, past]) ?_
        rw [queue_eq, ← line, Client.ahead, Client.ahead, spares.texts, spares.inHand, spares.send,
          past]
        rfl

theorem texts_of_over (isOver : client.session.send = .over) : client.ahead = client.texts := by
  rw [ahead_eq isOver]
  simp [SendPhase.message?, SendPhase.heeds]

theorem Flushes.of_over {said events : List Payload} (orderly : client.Orderly now)
    (flushes : client.Flushes said events) (isOver : client.session.send = .over) :
    ∃ extra, (∀ payload ∈ extra, ∃ message : ServerMessage, payload = message.toPayload) ∧
      client.texts = said ++ extra ++ events := by
  cases flushes with
  | controls extra messages heeds ahead queue =>
      rw [isOver] at heeds
      cases heeds
  | events extra messages past line =>
      rw [texts_of_over isOver, orderly.emptied (by rw [isOver]; rfl), List.append_nil] at line
      exact ⟨extra, messages, line⟩

theorem cancelled_sends (orderly : client.Orderly now) (move : client.Sends now config last) :
    last.connection.cancelled = client.connection.cancelled := by
  cases move with
  | fails holds failed => exact absurd failed (orderly.unlimited.ne_failed _)
  | _ => rfl

/-- When a close is asked for, the session has not begun to flush. -/
theorem heeds_turns (orderly : client.Orderly now) (patient : 0 < Session.sendGrace config)
    (turn : client.Turns now config last) (before : client.connection.cancelled = false)
    (cancelled : last.connection.cancelled = true) : last.session.send.heeds = true := by
  rcases orderly.sends_or_spares patient turn with move | spares
  · rw [cancelled_sends orderly move, before] at cancelled
    cases cancelled
  · have notFlush : client.session.send.isFlush = false := by
      rw [Bool.eq_false_iff]
      intro flush
      rw [orderly.flushing flush] at before
      cases before
    rw [spares.send]
    cases phase : client.session.send with
    | delivering => rfl
    | resting wake => rfl
    | writing message => rfl
    | flushingControl deadline => rfl
    | _ => simp [phase, SendPhase.isFlush] at notFlush

/-! The events. -/

/-- The events that are written, the one in hand and those that wait. -/
def eventLine (client : Client) : List Payload :=
  client.ahead.filter isEventText ++ client.queue

theorem eventLine_turns (orderly : client.Orderly now) (patient : 0 < Session.sendGrace config)
    (tagged : ∀ payload ∈ client.queue, isEventText payload = true)
    (turn : client.Turns now config last) : last.eventLine = client.eventLine := by
  rcases orderly.sends_or_spares patient turn with move | spares
  · cases advances_sends orderly move with
    | stays ahead queue heeds => rw [eventLine, ahead, queue, eventLine]
    | takes payload queue ahead heeds unheard =>
        have isEvent := tagged payload (by simp [queue])
        rw [eventLine, ahead, eventLine, queue, List.filter_append]
        simp [isEvent]
  · obtain ⟨added, waiting_eq, sent⟩ := spares.keeps.controls
    have noEvents : added.filter isEventText = [] := by
      rw [List.filter_eq_nil_iff]
      intro payload member
      obtain ⟨message, rfl⟩ := sent payload member
      simp [message.isEventText_toPayload]
    rw [eventLine, eventLine, ahead, ahead, spares.texts, spares.inHand, spares.send, queue,
      spares.keeps.buffer, Client.waiting, waiting_eq]
    cases client.session.send.heeds with
    | true => simp [noEvents, Client.waiting, queue]
    | false => simp [queue]

theorem queue_turns (orderly : client.Orderly now) (patient : 0 < Session.sendGrace config)
    (turn : client.Turns now config last) : last.queue <:+ client.queue := by
  rcases orderly.sends_or_spares patient turn with move | spares
  · cases advances_sends orderly move with
    | stays ahead queue heeds =>
        exact queue ▸ List.suffix_refl _
    | takes payload queue ahead heeds unheard =>
        rw [queue]
        exact List.suffix_cons payload _
  · rw [queue, spares.keeps.buffer]
    exact List.suffix_refl _

/-! The end of the send loop is never far once a close was asked for. -/

def stepsLeft (client : Client) : Nat :=
  let events := 2 * client.queue.length + 2
  let flush := 2 * client.waiting.length + 1 + events
  match client.session.send with
  | .delivering | .resting _ => flush + 1
  | .writing _ => flush + 2
  | .flushingControl _ => flush
  | .flushWriting (.control _) _ => flush + 1
  | .flushingEvents _ => events
  | .flushWriting (.event _) _ => events + 1
  | .farewell _ => 1
  | .over => 0

theorem stepsLeft_sends (orderly : client.Orderly now)
    (cancelled : client.connection.cancelled = true) (move : client.Sends now config last) :
    last.stepsLeft < client.stepsLeft := by
  have unlimited := orderly.unlimited
  cases move with
  | startsFlush unflushed _ =>
      rcases unflushed with phase | ⟨wake, phase⟩
      · simp [stepsLeft, turnTo, phase, queue, Client.waiting]
      · simp [stepsLeft, turnTo, phase, queue, Client.waiting]
  | takesControl delivering uncancelled waiting => simp [uncancelled] at cancelled
  | takesEvent delivering uncancelled silent waiting => simp [uncancelled] at cancelled
  | rests delivering uncancelled silent idle => simp [uncancelled] at cancelled
  | wakes resting uncancelled due => simp [uncancelled] at cancelled
  | writes holds written =>
      simp [stepsLeft, turnTo, withSink, holds, queue, Client.waiting]
  | flushesControl flushing waiting =>
      simp [stepsLeft, turnTo, withControls, flushing, queue, Client.waiting, waiting]
      omega
  | turnsToEvents flushing silent =>
      simp [stepsLeft, turnTo, flushing, queue, Client.waiting]
  | flushesEvent flushing waiting =>
      have taken := queue_withEventTaken waiting
      simp only [queue] at taken
      simp [stepsLeft, turnTo, flushing, queue, taken, waiting]
      omega
  | startsFarewell flushing idle => simp [stepsLeft, turnTo, flushing]
  | flushWrites holds written =>
      rename_i message deadline sink
      cases message with
      | control payload =>
          simp [stepsLeft, turnTo, withSink, holds, Session.flushAfter, queue, Client.waiting]
      | event payload => simp [stepsLeft, turnTo, withSink, holds, Session.flushAfter, queue]
  | closes leaving written => simp [stepsLeft, stopped, leaving]
  | fails holds failed => exact absurd failed (unlimited.ne_failed _)
  | flushFails holds failed => exact absurd failed (unlimited.ne_failed _)
  | timesOut holds full late => exact absurd full (unlimited.ne_full _)
  | leaves leaving unwritten =>
      rcases unwritten with failed | ⟨full, late⟩
      · exact absurd failed (unlimited.ne_failed _)
      · exact absurd full (unlimited.ne_full _)

/-- The send loop of an orderly client is never stuck after a close was asked for. -/
theorem Orderly.isSome_sendStep (orderly : client.Orderly now) {hub : Hub}
    (found : hub.get? client.session.id = some client.connection)
    (cancelled : client.connection.cancelled = true)
    (unfinished : client.session.send ≠ .over) :
    (client.session.sendStep now hub).isSome = true := by
  have write_eq := Sink.write_of_unlimited orderly.unlimited
  rw [Session.sendStep, found]
  cases phase : client.session.send with
  | delivering => rfl
  | resting wake => simp [Session.restStep, cancelled]
  | writing message => simp [Session.writeStep, write_eq]
  | flushingControl deadline => rfl
  | flushingEvents deadline => rfl
  | flushWriting message deadline => simp [Session.flushWriteStep, write_eq]
  | farewell deadline => simp [Session.farewellStep, write_eq]
  | «over» => exact absurd phase unfinished

end Client

end EventHub
