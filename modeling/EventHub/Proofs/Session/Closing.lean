import EventHub.Proofs.Hub.Closing
import EventHub.Proofs.Session.Output

/-!
A session and the end of its connection. It says goodbye and ends only after a reason was given, and
with that one.
-/

namespace EventHub

namespace Session

variable {session : Session}

/-- Where the session deals with the end of its connection, a reason was given before, and it is the
one that the session tells. -/
structure Faithful (session : Session) (given : Option CloseReason) : Prop where
  flushing : session.send.isFlush = true → given.isSome = true
  cancelled : session.receive = .over .cancelled → given.isSome = true
  ending : session.supervise ≠ .receiving → given.isSome = true
  frames : ∀ frame, .close frame ∈ session.sink.written →
    ∃ reason, given = some reason ∧ frame = reason.frame
  ended : ∀ reason, session.ended? = some reason → given = some reason

variable {given later : Option CloseReason}

theorem faithful_fresh (id : ConnectionId) {sink : Sink} (silent : sink.written = [])
    (given : Option CloseReason) : Faithful { id, sink } given where
  flushing := nofun
  cancelled := nofun
  ending := fun ending => absurd rfl ending
  frames := by
    rw [silent]
    exact nofun
  ended := nofun

namespace Faithful

theorem mono (faithful : session.Faithful given)
    (kept : ∀ reason, given = some reason → later = some reason) : session.Faithful later := by
  have isSome (before : given.isSome = true) : later.isSome = true := by
    obtain ⟨reason, known⟩ := Option.isSome_iff_exists.1 before
    rw [kept reason known]
    rfl
  refine ⟨fun flush => isSome (faithful.flushing flush),
    fun cancelled => isSome (faithful.cancelled cancelled),
    fun ending => isSome (faithful.ending ending), ?_,
    fun reason ended => kept reason (faithful.ended reason ended)⟩
  intro frame written
  obtain ⟨reason, known, rfl⟩ := faithful.frames frame written
  exact ⟨reason, kept reason known, rfl⟩

theorem goesOn (faithful : session.Faithful given) {phase : SendPhase} {sink : Sink}
    (flushing : phase.isFlush = true → given.isSome = true)
    (frames : ∀ frame, .close frame ∈ sink.written → .close frame ∈ session.sink.written) :
    Faithful { session with send := phase, sink } given :=
  ⟨flushing, faithful.cancelled, faithful.ending,
    fun frame written => faithful.frames frame (frames frame written), faithful.ended⟩

theorem writes (faithful : session.Faithful given) {phase : SendPhase} {sink : Sink}
    {payload : Payload} (written : session.sink.write (.text payload) = .done sink)
    (flushing : phase.isFlush = true → given.isSome = true) :
    Faithful { session with send := phase, sink } given := by
  cases Sink.write_eq_done written
  exact faithful.goesOn flushing fun frame member => by simpa using member

theorem saysGoodbye (faithful : session.Faithful given) {reason : CloseReason} {sink : Sink}
    (known : given = some reason)
    (written : session.sink.write (.close reason.frame) = .done sink) :
    Faithful { session with send := .over, sink := sink.finish } given := by
  cases Sink.write_eq_done written
  refine ⟨fun _ => known ▸ rfl, faithful.cancelled, faithful.ending, ?_, faithful.ended⟩
  intro frame member
  simp only [Sink.finish, List.append_assoc, List.mem_append, List.mem_cons, List.not_mem_nil,
    or_false, Outbound.close.injEq, reduceCtorEq] at member
  rcases member with before | rfl
  · exact faithful.frames frame before
  · exact ⟨reason, known, rfl⟩

end Faithful

end Session

namespace Client

structure Faithful (client : Client) : Prop where
  recorded : client.connection.Recorded
  session : client.session.Faithful client.connection.closeReason

variable {now : Instant} {config : HubConfig} {client last : Client}

theorem session_ending (client : Client) (exit : ReceiveExit) (deadline : Instant) :
    (client.ending exit deadline).session =
      { client.session with supervise := .sending deadline } := by
  simp only [ending]
  split <;> rfl

/-- The end of a session tells the reason on record, and does not change it. -/
theorem Expires.faithful {reason : CloseReason} (move : client.Expires last)
    (known : client.connection.closeReason = some reason)
    (closing : client.connection.isOpen = false)
    (faithful : client.session.Faithful (some reason)) :
    last.session.Faithful last.connection.closeReason := by
  have told : client.connection.reason = reason := by rw [Connection.reason, known]; rfl
  cases move with
  | finishes _ keeps =>
      rw [(keeps.closing closing).2, known, told]
      exact ⟨faithful.flushing, faithful.cancelled, fun _ => rfl, faithful.frames, fun _ => id⟩
  | abandons _ keeps =>
      have kept := (keeps.closing closing).2.trans known
      rw [kept, told]
      exact ⟨fun _ => rfl, faithful.cancelled, fun _ => rfl, faithful.frames, fun _ => id⟩

namespace Faithful

variable (faithful : client.Faithful)
include faithful

theorem closing (given : client.connection.closeReason.isSome = true) :
    client.connection.isOpen = false := by
  have asked := faithful.recorded.asked
  rw [← faithful.recorded.given, given] at asked
  simpa using asked.symm

/-- The supervisor goes on only when a close was asked for, and asks for it otherwise. -/
theorem ending {exit : ReceiveExit} (left : client.session.receive = .over exit)
    (deadline : Instant) :
    ∃ reason, (client.ending exit deadline).connection.closeReason = some reason ∧
      (client.ending exit deadline).connection.isOpen = false ∧
      (client.ending exit deadline).session.Faithful (some reason) := by
  have waits {reason : CloseReason} (same : client.session.Faithful (some reason)) :
      (client.ending exit deadline).session.Faithful (some reason) := by
    rw [session_ending]
    exact ⟨same.flushing, same.cancelled, fun _ => rfl, same.frames, nofun⟩
  by_cases cancelled : exit = .cancelled
  · have connection : (client.ending exit deadline).connection = client.connection := by
      rw [Client.ending, if_pos cancelled]
    have given := faithful.session.cancelled (cancelled ▸ left)
    obtain ⟨reason, known⟩ := Option.isSome_iff_exists.1 given
    have session := faithful.session
    rw [known] at session
    rw [connection]
    exact ⟨reason, known, faithful.closing given, waits session⟩
  · have connection : (client.ending exit deadline).connection =
        (client.connection.beginDraining .clientInitiated).1 := by
      rw [Client.ending, if_neg cancelled]
      rfl
    obtain ⟨reason, known⟩ :=
      Option.isSome_iff_exists.1 (faithful.recorded.isSome_beginDraining .clientInitiated)
    have session : client.session.Faithful (some reason) := by
      refine faithful.session.mono fun earlier before => ?_
      have closing := faithful.closing (before ▸ rfl)
      have keeps := client.connection.keeps_beginDraining .clientInitiated
      rw [← known, (keeps.closing closing).2, before]
    rw [connection]
    exact ⟨reason, known, client.connection.isOpen_beginDraining .clientInitiated, waits session⟩

theorem supervises (move : client.Supervises now config last) :
    last.session.Faithful last.connection.closeReason := by
  cases move with
  | waits _ left _ =>
      obtain ⟨reason, known, -, session⟩ := faithful.ending left (now + Session.sendGrace config)
      rw [known]
      exact session
  | quits _ left _ expires =>
      obtain ⟨reason, known, closing, session⟩ :=
        faithful.ending left (now + Session.sendGrace config)
      exact expires.faithful known closing session
  | expires sending _ expires =>
      have given := faithful.session.ending (by rw [sending]; exact nofun)
      obtain ⟨reason, known⟩ := Option.isSome_iff_exists.1 given
      have session := faithful.session
      rw [known] at session
      exact expires.faithful known (faithful.closing given) session

variable (kept : ∀ reason, client.connection.closeReason = some reason →
  last.connection.closeReason = some reason)
include kept

/-- The goodbye comes after the flush, so there is a reason for it. -/
theorem sends (move : client.Sends now config last) :
    last.session.Faithful last.connection.closeReason := by
  have same := faithful.session.mono kept
  have recorded := faithful.recorded
  have stays : ∀ frame, Outbound.close frame ∈ client.session.sink.written →
      .close frame ∈ client.session.sink.written := fun _ member => member
  cases move with
  | startsFlush _ cancelled =>
      exact same.goesOn (fun _ => recorded.given.trans cancelled) stays
  | takesControl _ _ _ => exact same.goesOn nofun stays
  | takesEvent _ _ _ _ => exact same.goesOn nofun stays
  | rests _ _ _ _ => exact same.goesOn nofun stays
  | wakes _ _ _ => exact same.goesOn nofun stays
  | writes _ written => exact same.writes written nofun
  | fails _ _ => exact same.goesOn (fun _ => recorded.isSome_beginDraining .clientInitiated) stays
  | flushesControl flushing _ =>
      exact same.goesOn (fun _ => same.flushing (by rw [flushing]; rfl)) stays
  | turnsToEvents flushing _ =>
      exact same.goesOn (fun _ => same.flushing (by rw [flushing]; rfl)) stays
  | flushesEvent flushing _ =>
      exact same.goesOn (fun _ => same.flushing (by rw [flushing]; rfl)) stays
  | startsFarewell flushing _ =>
      exact same.goesOn (fun _ => same.flushing (by rw [flushing]; rfl)) stays
  | flushWrites holds written =>
      exact same.writes written fun _ => same.flushing (by rw [holds]; rfl)
  | flushFails holds _ => exact same.goesOn (fun _ => same.flushing (by rw [holds]; rfl)) stays
  | timesOut holds _ _ => exact same.goesOn (fun _ => same.flushing (by rw [holds]; rfl)) stays
  | closes leaving written =>
      obtain ⟨reason, known⟩ :=
        Option.isSome_iff_exists.1 (faithful.session.flushing (by rw [leaving]; rfl))
      have said : client.connection.reason = reason := by rw [Connection.reason, known]; rfl
      rw [said] at written
      exact same.saysGoodbye (kept reason known) written
  | leaves leaving _ => exact same.goesOn (fun _ => same.flushing (by rw [leaving]; rfl)) stays

theorem receives (move : client.Receives last) :
    last.session.Faithful last.connection.closeReason := by
  have same := faithful.session.mono kept
  cases move with
  | stops _ exit cancelled =>
      refine ⟨same.flushing, fun left => ?_, same.ending, same.frames, same.ended⟩
      exact faithful.recorded.given.trans (cancelled (ReceivePhase.over.inj left))
  | hears _ inbound _ => exact ⟨same.flushing, same.cancelled, same.ending, same.frames, same.ended⟩

theorem turns (move : client.Turns now config last) :
    last.session.Faithful last.connection.closeReason := by
  have same := faithful.session.mono kept
  cases move with
  | sends move => exact faithful.sends kept move
  | receives move => exact faithful.receives kept move
  | supervises move => exact faithful.supervises move
  | gets inbound => exact ⟨same.flushing, same.cancelled, same.ending, same.frames, same.ended⟩
  | waits keeps => exact same

end Faithful

end Client

end EventHub
