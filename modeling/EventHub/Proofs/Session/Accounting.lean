import EventHub.Proofs.Hub.Offer
import EventHub.Proofs.Session.Output

/-!
The books of one client: what was written, what is in hand, what the buffer counts as dropped and
what is still queued. Any turn of the client leaves the sum as it is, except that an event in hand
can be given up, and that is written down nowhere.
-/

namespace EventHub

namespace Buffer

/-- What the buffer answers for: the payloads that it counts as dropped, and those it holds. -/
def tally (buffer : Buffer) : Nat :=
  buffer.dropped + buffer.queue.length

variable {buffer : Buffer}

@[simp] theorem tally_ofConfig (config : BufferConfig) : (ofConfig config).tally = 0 := rfl

theorem tally_enqueue (roomy : 0 < buffer.capacity) (payload : Payload) :
    (buffer.enqueue payload).1.tally = buffer.tally + 1 := by
  rw [tally, queue_enqueue, dropped_enqueue, makeRoom, tally]
  split
  · rename_i full
    -- A full buffer holds something, so a payload that is dropped was a queued one.
    have long : buffer.capacity ≤ buffer.queue.length := of_decide_eq_true full
    simp
    omega
  · simp
    omega

theorem tally_dequeue {payload : Payload} {rest : List Payload}
    (waiting : buffer.queue = payload :: rest) : buffer.dequeue.1.tally + 1 = buffer.tally := by
  simp only [tally, dequeue, waiting, checkLow]
  split
  · simp only [List.length_cons]
    omega
  · simp only [List.length_cons]
    omega

@[simp] theorem tally_clear : buffer.clear.tally = buffer.tally := rfl

end Buffer

namespace Client

/-- The events that the books show. -/
def accounted (client : Client) : Nat :=
  client.session.spoken.length + client.session.inHand.length + client.connection.buffer.tally

/-- The event in hand, when it is gone without having been written. -/
def givenUp (client last : Client) : List Payload :=
  if last.session.inHand = [] ∧ last.session.spoken = client.session.spoken then
    client.session.inHand
  else []

/-- The message in hand carries the tag that is its due. -/
structure Labelled (client : Client) : Prop where
  events : ∀ payload ∈ client.session.inHand, isEventText payload = true
  controls : Untagged client.session.controlInHand

variable {now : Instant} {config : HubConfig} {client last : Client}

theorem givenUp_of_inHand_eq (same : last.session.inHand = client.session.inHand) :
    client.givenUp last = [] := by
  rw [givenUp]
  split
  · rename_i gone
    rw [← same]
    exact gone.1
  · rfl

theorem length_inHand_le (client : Client) : client.session.inHand.length ≤ 1 := by
  rw [Session.inHand]
  cases client.session.send.message? with
  | none => exact Nat.zero_le 1
  | some message =>
      cases message with
      | control payload => exact Nat.zero_le 1
      | event payload => exact Nat.le_refl 1

theorem length_givenUp_le (client last : Client) : (client.givenUp last).length ≤ 1 := by
  rw [givenUp]
  split
  · exact client.length_inHand_le
  · exact Nat.zero_le 1

theorem inHand_of_givenUp {payload : Payload} (gone : payload ∈ client.givenUp last) :
    client.session.inHand = [payload] := by
  rw [givenUp] at gone
  split at gone
  · have single := client.length_inHand_le
    cases inHand : client.session.inHand with
    | nil => simp [inHand] at gone
    | cons other rest =>
        rw [inHand, List.length_cons] at single
        obtain rfl : rest = [] := List.length_eq_zero_iff.1 (by omega)
        rw [inHand] at gone
        rw [List.mem_singleton.1 gone]
  · cases gone

/-- How a message in hand can get lost: the sink refuses it, the flush runs out of time before it,
or the supervisor waits no longer. -/
inductive Loses (now : Instant) (config : HubConfig) (client : Client) : Prop where
  | refused {message : Outgoing} (holds : client.session.send.message? = some message)
      (failed : client.session.sink.write (.text message.payload) = .failed)
  | timedOut {message : Outgoing} {deadline : Instant}
      (holds : client.session.send = .flushWriting message deadline)
      (full : client.session.sink.write (.text message.payload) = .full) (late : deadline ≤ now)
  | abandoned (due : client.session.supervise = .receiving ∧ Session.sendGrace config = 0 ∨
      ∃ deadline, client.session.supervise = .sending deadline ∧ deadline ≤ now)

/-- The books agree before and after, but for an event that is given up; nothing more is taken out
of the buffer after that. -/
structure Balances (now : Instant) (config : HubConfig) (client last : Client) : Prop where
  sum : client.accounted = last.accounted + (client.givenUp last).length
  ends : client.givenUp last ≠ [] → last.session.send.isEmptied = true
  cause : client.givenUp last ≠ [] → client.Loses now config

theorem inHand_eq {phase : SendPhase} (send_eq : client.session.send = phase) :
    client.session.inHand = phase.message?.elim [] Outgoing.events := by
  rw [Session.inHand, send_eq]

namespace Balances

theorem of_taken (spoken : last.session.spoken = client.session.spoken)
    (emptyHanded : client.session.inHand = [])
    (tally : client.connection.buffer.tally =
      last.session.inHand.length + last.connection.buffer.tally) :
    client.Balances now config last := by
  have nothing : client.givenUp last = [] := by
    rw [givenUp, emptyHanded]
    exact ite_self []
  refine ⟨?_, fun gone => absurd nothing gone, fun gone => absurd nothing gone⟩
  rw [nothing, accounted, accounted, spoken, emptyHanded, tally]
  simp
  omega

theorem of_dropped (spoken : last.session.spoken = client.session.spoken)
    (emptyHanded : last.session.inHand = [])
    (tally : last.connection.buffer.tally = client.connection.buffer.tally)
    (ends : last.session.send.isEmptied = true) (cause : client.Loses now config) :
    client.Balances now config last := by
  have everything : client.givenUp last = client.session.inHand := if_pos ⟨emptyHanded, spoken⟩
  refine ⟨?_, fun _ => ends, fun _ => cause⟩
  rw [everything, accounted, accounted, spoken, emptyHanded, tally]
  simp
  omega

theorem of_same (sink : last.session.sink.written = client.session.sink.written)
    (inHand : last.session.inHand = client.session.inHand)
    (buffer : last.connection.buffer = client.connection.buffer) :
    client.Balances now config last := by
  have spoken : last.session.spoken = client.session.spoken := by
    rw [Session.spoken, sink, Session.spoken]
  have nothing := givenUp_of_inHand_eq inHand
  refine ⟨?_, fun gone => absurd nothing gone, fun gone => absurd nothing gone⟩
  rw [nothing, accounted, accounted, spoken, inHand, buffer]
  rfl

theorem of_written (labelled : client.Labelled) {message : Outgoing} {sink : Sink}
    {phase : SendPhase} (holds : client.session.send.message? = some message)
    (free : phase.message? = none)
    (written : client.session.sink.write (.text message.payload) = .done sink) :
    client.Balances now config ((client.withSink sink).turnTo phase) := by
  have spoken : ((client.withSink sink).turnTo phase).session.spoken = client.session.spoken ++
      if isEventText message.payload then [message.payload] else [] :=
    Session.spoken_write written
  have emptyHanded : ((client.withSink sink).turnTo phase).session.inHand = [] := by
    have send_eq : ((client.withSink sink).turnTo phase).session.send = phase := rfl
    rw [inHand_eq send_eq, free]
    rfl
  have inHand : client.session.inHand = message.events := by
    rw [Session.inHand, holds]
    rfl
  cases message with
  | control payload =>
      have untagged := labelled.controls payload (by simp [Session.controlInHand, holds,
        Outgoing.controls])
      refine of_taken ?_ inHand ?_
      · simpa [Outgoing.payload, untagged] using spoken
      · rw [emptyHanded]
        exact (Nat.zero_add _).symm
  | event payload =>
      have tagged := labelled.events payload (by simp [inHand, Outgoing.events])
      simp only [Outgoing.payload, tagged, if_true] at spoken
      have nothing : client.givenUp ((client.withSink sink).turnTo phase) = [] := by
        refine if_neg fun gone => ?_
        have longer := congrArg List.length (spoken.symm.trans gone.2)
        simp at longer
      refine ⟨?_, fun gone => absurd nothing gone, fun gone => absurd nothing gone⟩
      rw [nothing, accounted, accounted, spoken, emptyHanded, inHand]
      simp [Outgoing.events]
      rfl

/-- The books do not look at what a supervisor does before it ends the session. -/
theorem after {middle : Client} (balances : middle.Balances now config last)
    (sink : middle.session.sink = client.session.sink)
    (send : middle.session.send = client.session.send)
    (buffer : middle.connection.buffer = client.connection.buffer)
    (cause : client.Loses now config) : client.Balances now config last := by
  have spoken : middle.session.spoken = client.session.spoken := by
    rw [Session.spoken, sink, Session.spoken]
  have inHand : middle.session.inHand = client.session.inHand := by
    rw [Session.inHand, send, Session.inHand]
  have same : client.givenUp last = middle.givenUp last := by
    rw [givenUp, givenUp, spoken, inHand]
  have total : client.accounted = middle.accounted := by
    rw [accounted, accounted, spoken, inHand, buffer]
  refine ⟨?_, ?_, fun _ => cause⟩
  · rw [same, total]
    exact balances.sum
  · rw [same]
    exact balances.ends

end Balances

theorem message?_flushAfter (message : Outgoing) (deadline : Instant) :
    (Session.flushAfter message deadline).message? = none := by
  cases message <;> rfl

theorem spoken_closed {sink : Sink} {frame : CloseFrame}
    (written : client.session.sink.write (.close frame) = .done sink) :
    (client.withSink sink.finish).stopped.session.spoken = client.session.spoken := by
  cases Sink.write_eq_done written
  simp [Session.spoken, stopped, withSink, Sink.finish, Outbound.eventText?]

theorem balances_sends (labelled : client.Labelled) (move : client.Sends now config last) :
    client.Balances now config last := by
  cases move with
  | startsFlush unflushed cancelled =>
      rcases unflushed with phase | ⟨wake, phase⟩
      · exact .of_same rfl (by rw [inHand_eq phase]; rfl) rfl
      · exact .of_same rfl (by rw [inHand_eq phase]; rfl) rfl
  | takesControl delivering uncancelled waiting =>
      exact .of_same rfl (by rw [inHand_eq delivering]; rfl) rfl
  | takesEvent delivering uncancelled silent waiting =>
      refine .of_taken rfl (by rw [inHand_eq delivering]; rfl) ?_
      rw [← Buffer.tally_dequeue waiting, Nat.add_comm]
      rfl
  | rests delivering uncancelled silent idle =>
      exact .of_same rfl (by rw [inHand_eq delivering]; rfl) rfl
  | wakes resting uncancelled due => exact .of_same rfl (by rw [inHand_eq resting]; rfl) rfl
  | writes holds written => exact .of_written labelled (by rw [holds]; rfl) rfl written
  | fails holds failed =>
      have keeps := client.connection.keeps_beginDraining .clientInitiated
      exact .of_dropped rfl rfl (congrArg Buffer.tally keeps.buffer) rfl
        (.refused (by rw [holds]; rfl) failed)
  | flushesControl flushing waiting => exact .of_same rfl (by rw [inHand_eq flushing]; rfl) rfl
  | turnsToEvents flushing silent => exact .of_same rfl (by rw [inHand_eq flushing]; rfl) rfl
  | flushesEvent flushing waiting =>
      refine .of_taken rfl (by rw [inHand_eq flushing]; rfl) ?_
      rw [← Buffer.tally_dequeue waiting, Nat.add_comm]
      rfl
  | startsFarewell flushing idle => exact .of_same rfl (by rw [inHand_eq flushing]; rfl) rfl
  | flushWrites holds written =>
      exact .of_written labelled (by rw [holds]; rfl) (message?_flushAfter _ _) written
  | flushFails holds failed =>
      exact .of_dropped rfl rfl rfl rfl (.refused (by rw [holds]; rfl) failed)
  | timesOut holds full late =>
      exact .of_dropped rfl rfl Buffer.tally_clear rfl (.timedOut holds full late)
  | closes leaving written =>
      have emptyHanded : client.session.inHand = [] := by
        rw [inHand_eq leaving]
        rfl
      exact .of_taken (spoken_closed written) emptyHanded (Nat.zero_add _).symm
  | leaves leaving unwritten => exact .of_same rfl (by rw [inHand_eq leaving]; rfl) rfl

theorem balances_expires (move : client.Expires last)
    (cause : client.session.send ≠ .over → client.Loses now config) :
    client.Balances now config last := by
  cases move with
  | finishes isOver keeps => exact .of_same rfl rfl keeps.buffer
  | abandons unfinished keeps =>
      exact .of_dropped rfl rfl (congrArg Buffer.tally keeps.buffer) rfl (cause unfinished)

theorem ending_eq (client : Client) (exit : ReceiveExit) (deadline : Instant) :
    (client.ending exit deadline).session.sink = client.session.sink ∧
      (client.ending exit deadline).session.send = client.session.send ∧
      (client.ending exit deadline).connection.buffer = client.connection.buffer := by
  rw [ending]
  split
  · exact ⟨rfl, rfl, rfl⟩
  · exact ⟨rfl, rfl, (client.connection.keeps_beginDraining .clientInitiated).buffer⟩

theorem balances_turns (labelled : client.Labelled) (turn : client.Turns now config last) :
    client.Balances now config last := by
  cases turn with
  | sends move => exact balances_sends labelled move
  | receives move =>
      cases move with
      | stops reading exit cancelled => exact .of_same rfl rfl rfl
      | hears reading inbound keeps => exact .of_same rfl rfl keeps.buffer
  | supervises move =>
      cases move with
      | waits receiving left patient =>
          rename_i exit
          obtain ⟨sink, send, buffer⟩ := client.ending_eq exit (now + Session.sendGrace config)
          exact .of_same (by rw [sink]) (by rw [Session.inHand, send, Session.inHand]) buffer
      | quits receiving left impatient expires =>
          rename_i exit
          obtain ⟨sink, send, buffer⟩ := client.ending_eq exit (now + Session.sendGrace config)
          have late : now + Session.sendGrace config ≤ now := Nat.le_of_eq (by rw [impatient]; rfl)
          have balances : Balances now config _ last := balances_expires expires fun _ =>
            .abandoned (Or.inr ⟨now + Session.sendGrace config, rfl, late⟩)
          exact balances.after sink send buffer (.abandoned (Or.inl ⟨receiving, impatient⟩))
      | expires sending due expires =>
          exact balances_expires expires fun unfinished =>
            .abandoned (Or.inr ⟨_, sending, due.resolve_left unfinished⟩)
  | gets inbound => exact .of_same rfl rfl rfl
  | waits keeps => exact .of_same rfl rfl keeps.buffer

theorem isEmptied_turns (turn : client.Turns now config last)
    (emptied : client.session.send.isEmptied = true) : last.session.send.isEmptied = true := by
  have stays {middle : Client} (move : middle.Expires last) :
      middle.session.send.isEmptied = true → last.session.send.isEmptied = true := by
    cases move with
    | finishes isOver keeps => exact id
    | abandons unfinished keeps => exact fun _ => rfl
  cases turn with
  | sends move =>
      cases move with
      | startsFlush unflushed cancelled =>
          rcases unflushed with phase | ⟨wake, phase⟩
          · simp [phase, SendPhase.isEmptied] at emptied
          · simp [phase, SendPhase.isEmptied] at emptied
      | takesControl phase _ _ | takesEvent phase _ _ _ | rests phase _ _ _ | wakes phase _ _
      | writes phase _ | fails phase _ | flushesControl phase _ | turnsToEvents phase _
      | flushesEvent phase _ | startsFarewell phase _ | flushWrites phase _ | flushFails phase _
      | timesOut phase _ _ => simp [phase, SendPhase.isEmptied] at emptied
      | closes leaving written => rfl
      | leaves leaving unwritten => rfl
  | receives move =>
      cases move with
      | stops reading exit cancelled => exact emptied
      | hears reading inbound keeps => exact emptied
  | supervises move =>
      cases move with
      | waits receiving left patient =>
          rw [(client.ending_eq _ _).2.1]
          exact emptied
      | quits receiving left impatient expires =>
          refine stays expires ?_
          rw [(client.ending_eq _ _).2.1]
          exact emptied
      | expires sending due expires => exact stays expires emptied
  | gets inbound => exact emptied
  | waits keeps => exact emptied

theorem inHand_of_isEmptied (emptied : client.session.send.isEmptied = true) :
    client.session.inHand = [] := by
  cases phase : client.session.send with
  | farewell deadline => rw [inHand_eq phase]; rfl
  | «over» => rw [inHand_eq phase]; rfl
  | _ => simp [phase, SendPhase.isEmptied] at emptied

end Client

end EventHub
