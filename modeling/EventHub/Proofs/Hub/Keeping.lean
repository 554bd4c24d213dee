import EventHub.Proofs.Hub.Offer

/-!
What others do to a connection while its own session holds the reading ends of its queues: control
messages join the end of their queue, a close may be asked for, and the buffer stays as it is
unless an event is routed.
-/

namespace EventHub

namespace Connection

/-- From `before` to `after` the buffer is left alone, control messages are only added, and a close
that was asked for stays as it is, with its reason. -/
structure Keeps (before after : Connection) : Prop where
  id : after.id = before.id
  buffer : after.buffer = before.buffer
  controls : ∃ added, after.control.waiting = before.control.waiting ++ added ∧
    ∀ payload ∈ added, ∃ message : ServerMessage, payload = message.toPayload
  reader : before.control.reader ≠ .waiting → after.control.reader = before.control.reader
  capacity : after.control.capacity = before.control.capacity
  cancelled : before.cancelled = true → after.cancelled = true
  closing : before.isOpen = false → after.isOpen = false ∧ after.closeReason = before.closeReason
  asked : before.cancelled = !before.isOpen → after.cancelled = !after.isOpen

namespace Keeps

variable {before middle after : Connection}

theorem refl (connection : Connection) : Keeps connection connection :=
  ⟨rfl, rfl, ⟨[], by simp⟩, fun _ => rfl, rfl, fun cancelled => cancelled,
    fun closing => ⟨closing, rfl⟩, fun asked => asked⟩

theorem trans (first : Keeps before middle) (second : Keeps middle after) :
    Keeps before after where
  id := second.id.trans first.id
  buffer := second.buffer.trans first.buffer
  controls := by
    obtain ⟨earlier, waiting, sent⟩ := first.controls
    obtain ⟨later, waitingLater, sentLater⟩ := second.controls
    refine ⟨earlier ++ later, ?_, ?_⟩
    · rw [waitingLater, waiting, List.append_assoc]
    · intro payload member
      rcases List.mem_append.1 member with member | member
      · exact sent payload member
      · exact sentLater payload member
  reader := by
    intro taken
    have same := first.reader taken
    rw [second.reader (same ▸ taken), same]
  capacity := second.capacity.trans first.capacity
  cancelled := fun cancelled => second.cancelled (first.cancelled cancelled)
  closing := by
    intro closing
    obtain ⟨closed, reason⟩ := first.closing closing
    obtain ⟨closedLater, reasonLater⟩ := second.closing closed
    exact ⟨closedLater, reasonLater.trans reason⟩
  asked := fun asked => second.asked (first.asked asked)

theorem reason (keeps : Keeps before after) (closing : before.isOpen = false) :
    after.reason = before.reason := by
  rw [Connection.reason, (keeps.closing closing).2, Connection.reason]

/-- Only the heartbeat, the marks of a session and the control queue are touched. -/
theorem of_control {connection : Connection} {heartbeat : Heartbeat} {control : ControlQueue}
    {attached finished : Bool}
    (controls : ∃ added, control.waiting = connection.control.waiting ++ added ∧
      ∀ payload ∈ added, ∃ message : ServerMessage, payload = message.toPayload)
    (reader : connection.control.reader ≠ .waiting →
      control.reader = connection.control.reader)
    (capacity : control.capacity = connection.control.capacity) :
    Keeps connection { connection with heartbeat, control, attached, finished } :=
  ⟨rfl, rfl, controls, reader, capacity, fun cancelled => cancelled,
    fun closing => ⟨closing, rfl⟩, fun asked => asked⟩

end Keeps

theorem waiting_send {queue sent : ControlQueue} {payload : Payload}
    (sends : queue.send payload = .ok sent) :
    sent = { queue with waiting := queue.waiting ++ [payload] } := by
  simp only [ControlQueue.send] at sends
  split at sends
  · cases sends
  · split at sends
    · cases sends
    · cases sends
      rfl

theorem keeps_of_send {connection : Connection} {heartbeat : Heartbeat} {control : ControlQueue}
    {message : ServerMessage}
    (sent : control = connection.control ∨
      connection.control.send message.toPayload = .ok control) :
    Keeps connection { connection with heartbeat, control } := by
  rcases sent with rfl | sends
  · exact .of_control ⟨[], by simp⟩ (fun _ => rfl) rfl
  · rw [waiting_send sends]
    exact .of_control ⟨[message.toPayload], rfl,
      fun payload member => ⟨message, List.mem_singleton.1 member⟩⟩ (fun _ => rfl) rfl

theorem keeps_attend (config : HeartbeatConfig) (now : Instant) (stamp : UInt64)
    (connection : Connection) : Keeps connection (connection.attend config now stamp).1 := by
  obtain ⟨heartbeat, control, attended, sent⟩ := connection.attend_eq config now stamp
  rw [attended]
  exact keeps_of_send sent

theorem keeps_beginDraining (connection : Connection) (reason : CloseReason) :
    Keeps connection (connection.beginDraining reason).1 := by
  simp only [beginDraining]
  split
  · rename_i opened
    exact ⟨rfl, rfl, ⟨[], by simp⟩, fun _ => rfl, rfl, fun _ => rfl,
      fun closing => absurd opened (by simp [closing]), fun _ => rfl⟩
  · rename_i closing
    exact ⟨rfl, rfl, ⟨[], by simp⟩, fun _ => rfl, rfl, fun _ => rfl,
      fun closing => ⟨closing, rfl⟩, fun _ => by simpa [isOpen] using closing⟩

theorem cancelled_beginDraining (connection : Connection) (reason : CloseReason) :
    (connection.beginDraining reason).1.cancelled = true := by
  simp only [beginDraining]
  split <;> rfl

theorem keeps_markClosed (connection : Connection) : Keeps connection connection.markClosed :=
  ⟨rfl, rfl, ⟨[], by simp [markClosed]⟩, fun _ => rfl, rfl, fun _ => rfl,
    fun _ => ⟨rfl, rfl⟩, fun _ => rfl⟩

end Connection

/-- Takes nothing out of the control queue and does not give it up. -/
def Upkeep.spares : Upkeep → Bool
  | receiveControl | dropReader => false
  | pong _ | beat _ _ | markDead | sendControl _ | takeReader | attach | finish => true

theorem Upkeep.keeps_apply (upkeep : Upkeep) (spares : upkeep.spares = true)
    (connection : Connection) : connection.Keeps (upkeep.apply connection) := by
  cases upkeep with
  | pong now => exact .of_control ⟨[], by simp⟩ (fun _ => rfl) rfl
  | beat config now => exact .of_control ⟨[], by simp⟩ (fun _ => rfl) rfl
  | markDead => exact .of_control ⟨[], by simp⟩ (fun _ => rfl) rfl
  | sendControl message =>
      rw [apply]
      cases sends : connection.sendControl message with
      | error cause => exact .refl connection
      | ok next =>
          obtain ⟨control, queued, rfl⟩ := Connection.sendControl_eq_ok sends
          exact Connection.keeps_of_send (Or.inr queued)
  | takeReader =>
      rw [apply, ControlQueue.take?]
      split
      · rename_i waiting
        exact .of_control ⟨[], by simp⟩ (fun taken => absurd waiting taken) rfl
      · exact .refl connection
  | receiveControl => cases spares
  | dropReader => cases spares
  | attach => exact .of_control ⟨[], by simp⟩ (fun _ => rfl) rfl
  | finish => exact .of_control ⟨[], by simp⟩ (fun _ => rfl) rfl

/-- Leaves the queues of a connection to its session. -/
def Hub.Operation.spares (id : ConnectionId) : Hub.Operation → Bool
  | .dequeue other | .clear other => other ≠ id
  | .tend other upkeep => other ≠ id || upkeep.spares
  | _ => true

namespace Standing

/-- A connection is still there, kept in the sense of `Connection.Keeps`; one that is new has
nothing in its buffer yet. -/
structure Keeps (before after : Standing) : Prop where
  kept : ∀ connection, before.connection = some connection →
    ∃ kept, after.connection = some kept ∧ connection.Keeps kept
  fresh : before.connection = Option.none → ∀ connection, after.connection = some connection →
    ∃ config, connection.buffer = Buffer.ofConfig config

variable {before middle after : Standing}

theorem Keeps.of_connection_eq (same : after.connection = before.connection) :
    before.Keeps after where
  kept := fun connection found => ⟨connection, same.trans found, .refl connection⟩
  fresh := by
    intro absent connection found
    rw [same, absent] at found
    cases found

theorem Keeps.trans (first : before.Keeps middle) (second : middle.Keeps after) :
    before.Keeps after where
  kept := by
    intro connection found
    obtain ⟨kept, foundKept, keeps⟩ := first.kept connection found
    obtain ⟨last, foundLast, keepsLast⟩ := second.kept kept foundKept
    exact ⟨last, foundLast, keeps.trans keepsLast⟩
  fresh := by
    intro absent connection found
    cases created : middle.connection with
    | none => exact second.fresh created connection found
    | some new =>
        obtain ⟨kept, foundKept, keeps⟩ := second.kept new created
        cases found.symm.trans foundKept
        rw [keeps.buffer]
        exact first.fresh absent new created

variable (standing : Standing)

theorem keeps_amend {change : Connection → Connection}
    (keeps : ∀ connection, Connection.Keeps connection (change connection)) :
    standing.Keeps (standing.amend change) where
  kept := fun connection found =>
    ⟨change connection, by rw [amend, found, Option.map_some], keeps connection⟩
  fresh := by
    intro absent connection found
    rw [amend, absent] at found
    cases found

theorem connection_subscribe (limit : Nat) (events : List EventType) (clusters : List String) :
    (standing.subscribe limit events clusters).connection = standing.connection := by
  rw [subscribe]
  split
  · split <;> rfl
  · rfl

theorem keeps_leave (reason : CloseReason) : standing.Keeps (standing.leave reason) := by
  rw [leave]
  split
  · have drained : standing.Keeps (standing.beginDraining reason) :=
      standing.keeps_amend fun connection => connection.keeps_beginDraining reason
    exact drained.trans (.of_connection_eq rfl)
  · exact .of_connection_eq rfl

theorem keeps_close (reason : CloseReason) : standing.Keeps (standing.close reason) := by
  rw [close]
  split
  · exact (standing.keeps_leave reason).trans
      ((standing.leave reason).keeps_amend Connection.keeps_markClosed)
  · exact .of_connection_eq rfl

theorem keeps_visit (config : HeartbeatConfig) (now : Instant) (stamp : UInt64) :
    standing.Keeps (standing.visit config now stamp) := by
  rw [visit]
  split
  · exact standing.keeps_amend fun connection => connection.keeps_attend config now stamp
  · exact .of_connection_eq rfl

theorem keeps_tick (config : HeartbeatConfig) (now : Instant) (stamp : UInt64) :
    standing.Keeps (standing.tick config now stamp) := by
  have visited := standing.keeps_visit config now stamp
  rw [tick]
  split
  · exact visited.trans ((standing.visit config now stamp).keeps_close .heartbeatTimeout)
  · exact visited

end Standing

namespace Buffer

variable (buffer : Buffer)

theorem capacity_enqueue (payload : Payload) :
    (buffer.enqueue payload).1.capacity = buffer.capacity := by
  simp only [enqueue, checkHigh, append, makeRoom]
  split <;> split <;> rfl

theorem capacity_ofConfig_pos (config : BufferConfig) : 0 < (ofConfig config).capacity := by
  simp only [ofConfig, BufferConfig.effective, atLeastOne]
  omega

theorem capacity_dequeue : buffer.dequeue.1.capacity = buffer.capacity := by
  rw [dequeue]
  split
  · rfl
  · simp only [checkLow]
    split <;> rfl

end Buffer

/-- A connection as it comes out of the hub's operations: cancelled exactly when it is not open,
and with room for a control message and for an event. -/
structure Connection.Regular (connection : Connection) : Prop where
  asked : connection.cancelled = !connection.isOpen
  roomy : 0 < connection.control.capacity
  spacious : 0 < connection.buffer.capacity

theorem Connection.Keeps.regular {before after : Connection} (keeps : before.Keeps after)
    (regular : before.Regular) : after.Regular :=
  ⟨keeps.asked regular.asked, keeps.capacity ▸ regular.roomy, keeps.buffer ▸ regular.spacious⟩

theorem Connection.regular_create (config : HubConfig) (id : ConnectionId) (identity : Identity)
    (version : UInt32) : (create config id identity version).Regular :=
  ⟨rfl, by simp only [create, atLeastOne]; omega, Buffer.capacity_ofConfig_pos config.buffer⟩

theorem Upkeep.regular_apply (upkeep : Upkeep) {connection : Connection}
    (regular : connection.Regular) : (upkeep.apply connection).Regular := by
  by_cases spares : upkeep.spares = true
  · exact (upkeep.keeps_apply spares connection).regular regular
  · cases upkeep with
    | receiveControl =>
        rw [apply, ControlQueue.receive?]
        cases connection.control.waiting with
        | nil => exact regular
        | cons payload rest => exact ⟨regular.asked, regular.roomy, regular.spacious⟩
    | dropReader => exact ⟨regular.asked, regular.roomy, regular.spacious⟩
    | _ => exact absurd rfl spares

namespace Standing

def Regular (standing : Standing) : Prop :=
  ∀ connection, standing.connection = some connection → connection.Regular

variable {standing : Standing}

theorem Regular.amend (regular : standing.Regular) {change : Connection → Connection}
    (changes : ∀ connection, connection.Regular → (change connection).Regular) :
    (standing.amend change).Regular := by
  intro connection found
  obtain ⟨before, foundBefore, rfl⟩ := Option.map_eq_some_iff.1 found
  exact changes before (regular before foundBefore)

theorem Regular.amend_keeps (regular : standing.Regular) {change : Connection → Connection}
    (keeps : ∀ connection, Connection.Keeps connection (change connection)) :
    (standing.amend change).Regular :=
  regular.amend fun connection => (keeps connection).regular

theorem Regular.leave (regular : standing.Regular) (reason : CloseReason) :
    (standing.leave reason).Regular := by
  rw [Standing.leave]
  split
  · exact regular.amend_keeps fun connection => connection.keeps_beginDraining reason
  · exact regular

theorem Regular.close (regular : standing.Regular) (reason : CloseReason) :
    (standing.close reason).Regular := by
  rw [Standing.close]
  split
  · exact (regular.leave reason).amend_keeps Connection.keeps_markClosed
  · exact regular

theorem Regular.visit (regular : standing.Regular) (config : HeartbeatConfig) (now : Instant)
    (stamp : UInt64) : (standing.visit config now stamp).Regular := by
  rw [Standing.visit]
  split
  · exact regular.amend_keeps fun connection => connection.keeps_attend config now stamp
  · exact regular

theorem Regular.apply (regular : standing.Regular) (config : HubConfig) (id : ConnectionId)
    (operation : Hub.Operation) : (standing.apply config id operation).Regular := by
  cases operation with
  | register other identity version =>
      intro connection found
      cases found
      exact Connection.regular_create config id identity version
  | subscribe other events clusters =>
      intro connection found
      rw [Standing.apply, connection_subscribe] at found
      exact regular connection found
  | unsubscribe other events => exact regular
  | route event =>
      rw [Standing.apply, offer]
      split
      · refine regular.amend fun connection regular => ?_
        rw [Connection.take]
        split
        · refine ⟨regular.asked, regular.roomy, ?_⟩
          exact (Buffer.capacity_enqueue _ event.toPayload).symm ▸ regular.spacious
        · exact regular
      · exact regular
  | dequeue other =>
      refine regular.amend fun connection regular => ⟨regular.asked, regular.roomy, ?_⟩
      exact (Buffer.capacity_dequeue connection.buffer).symm ▸ regular.spacious
  | clear other =>
      exact regular.amend fun _ regular => ⟨regular.asked, regular.roomy, regular.spacious⟩
  | tend other upkeep => exact regular.amend fun _ => upkeep.regular_apply
  | beginDraining other reason =>
      exact regular.amend_keeps fun connection => connection.keeps_beginDraining reason
  | markClosed other => exact regular.amend_keeps Connection.keeps_markClosed
  | beginClose other reason => exact regular.leave reason
  | finishClose other asked => exact regular.amend_keeps Connection.keeps_markClosed
  | close other reason => exact regular.close reason
  | survey now stamp => exact regular.visit config.heartbeat now stamp
  | tick now stamp =>
      rw [Standing.apply, Standing.tick]
      split
      · exact (regular.visit config.heartbeat now stamp).close .heartbeatTimeout
      · exact regular.visit config.heartbeat now stamp
  | shutdown => exact regular.close .serverShutdown
  | report entry => exact regular

end Standing

namespace Hub

variable {hub : Hub}

theorem regular_run (wellFormed : hub.WellFormed) {id : ConnectionId}
    (regular : (hub.standing id).Regular) (operations : List Operation) :
    ((hub.run operations).standing id).Regular :=
  invariant_run (fun config id _ operation regular => regular.apply config id operation)
    wellFormed operations regular

/-- An operation that leaves the queues to the session and routes nothing keeps the connection. -/
theorem keeps_apply (wellFormed : hub.WellFormed) (id : ConnectionId) (operation : Operation)
    (spares : operation.spares id = true) (quiet : operation.isRoute = false) :
    (hub.standing id).Keeps ((hub.apply operation).standing id) := by
  rw [(effect_apply wellFormed operation).standing]
  split
  · rename_i concerned
    cases operation with
    | register other identity version =>
        simp only [concerns, Bool.and_eq_true, Option.isNone_iff_eq_none] at concerned
        refine ⟨fun connection found => absurd found (by simp [standing, concerned.1.2]), ?_⟩
        intro _ connection created
        cases created
        exact ⟨hub.config.buffer, rfl⟩
    | subscribe other events clusters =>
        exact .of_connection_eq (Standing.connection_subscribe _ _ events clusters)
    | unsubscribe other events => exact .of_connection_eq rfl
    | route event => cases quiet
    | dequeue other =>
        simp only [Operation.spares, ne_eq, decide_not, Bool.not_eq_true'] at spares
        simp [concerns, spares] at concerned
    | clear other =>
        simp only [Operation.spares, ne_eq, decide_not, Bool.not_eq_true'] at spares
        simp [concerns, spares] at concerned
    | tend other upkeep =>
        have own : other = id := of_decide_eq_true concerned
        have sparing : upkeep.spares = true := by simpa [Operation.spares, own] using spares
        exact Standing.keeps_amend _ (upkeep.keeps_apply sparing)
    | beginDraining other reason =>
        exact Standing.keeps_amend _ fun connection => connection.keeps_beginDraining reason
    | markClosed other => exact Standing.keeps_amend _ Connection.keeps_markClosed
    | beginClose other reason => exact Standing.keeps_leave _ reason
    | finishClose other asked => exact Standing.keeps_amend _ Connection.keeps_markClosed
    | close other reason => exact Standing.keeps_close _ reason
    | survey now stamp => exact Standing.keeps_visit _ _ now stamp
    | tick now stamp => exact Standing.keeps_tick _ _ now stamp
    | shutdown => exact Standing.keeps_close _ .serverShutdown
    | report entry => cases concerned
  · exact .of_connection_eq rfl

end Hub

end EventHub
