import EventHub.Proofs.Hub.Operation

/-!
Only a routed event adds to a buffer. Whatever else happens to a connection, its buffer gives
payloads away and its control queue takes in messages of the hub alone.
-/

namespace EventHub

namespace Connection

/-- From `before` to `after` nothing new is let in: the connection is not opened again, its buffer
only gives payloads away, the oldest first, and what is new among its control messages is the
hub's own. -/
structure Dwindles (before after : Connection) : Prop where
  id : after.id = before.id
  identity : after.identity = before.identity
  wasOpen : after.isOpen = true → before.isOpen = true
  queue : after.buffer.queue <:+ before.buffer.queue
  controls : ∀ payload ∈ after.control.waiting,
    payload ∈ before.control.waiting ∨ ∃ message : ServerMessage, payload = message.toPayload

theorem controls_send {queue sent : ControlQueue} {message : ServerMessage}
    (sends : queue.send message.toPayload = .ok sent) {payload : Payload}
    (waiting : payload ∈ sent.waiting) :
    payload ∈ queue.waiting ∨ ∃ message : ServerMessage, payload = message.toPayload := by
  simp only [ControlQueue.send] at sends
  split at sends
  · cases sends
  · split at sends
    · cases sends
    · cases sends
      rcases List.mem_append.1 waiting with waiting | isSent
      · exact Or.inl waiting
      · exact Or.inr ⟨message, List.mem_singleton.1 isSent⟩

theorem dwindles_dequeue (connection : Connection) :
    Dwindles connection connection.dequeue.1 := by
  refine ⟨rfl, rfl, fun opened => opened, ?_, fun _ => Or.inl⟩
  simp only [dequeue, Buffer.dequeue]
  cases waiting : connection.buffer.queue with
  | nil => simp [waiting]
  | cons payload rest =>
      simp only [Buffer.checkLow]
      split
      · exact List.suffix_cons payload rest
      · exact List.suffix_cons payload rest

theorem dwindles_clear (connection : Connection) : Dwindles connection connection.clear :=
  ⟨rfl, rfl, fun opened => opened, List.nil_suffix, fun _ => Or.inl⟩

end Connection

theorem Upkeep.controls_apply (upkeep : Upkeep) (connection : Connection) :
    ∀ payload ∈ (upkeep.apply connection).control.waiting,
      payload ∈ connection.control.waiting ∨
        ∃ message : ServerMessage, payload = message.toPayload := by
  intro payload waiting
  cases upkeep with
  | pong now => exact Or.inl waiting
  | beat config now => exact Or.inl waiting
  | markDead => exact Or.inl waiting
  | sendControl message =>
      simp only [apply] at waiting
      cases sends : connection.sendControl message with
      | error cause =>
          rw [sends] at waiting
          exact Or.inl waiting
      | ok next =>
          rw [sends] at waiting
          obtain ⟨control, queued, rfl⟩ := Connection.sendControl_eq_ok sends
          exact Connection.controls_send queued waiting
  | takeReader =>
      refine Or.inl ?_
      simp only [apply, ControlQueue.take?] at waiting
      split at waiting
      · exact waiting
      · exact waiting
  | receiveControl =>
      refine Or.inl ?_
      simp only [apply, ControlQueue.receive?] at waiting
      cases queued : connection.control.waiting with
      | nil => simp [queued] at waiting
      | cons first rest => exact List.mem_cons_of_mem first (by simpa [queued] using waiting)
  | dropReader => cases waiting
  | attach => exact Or.inl waiting
  | finish => exact Or.inl waiting

namespace Connection

theorem dwindles_upkeep (upkeep : Upkeep) (connection : Connection) :
    Dwindles connection (upkeep.apply connection) := by
  have controls := upkeep.controls_apply connection
  obtain ⟨heartbeat, control, attached, finished, applied⟩ := upkeep.apply_eq connection
  rw [applied] at controls ⊢
  exact ⟨rfl, rfl, fun opened => opened, List.suffix_refl _, controls⟩

theorem dwindles_attend (config : HeartbeatConfig) (now : Instant) (stamp : UInt64)
    (connection : Connection) : Dwindles connection (connection.attend config now stamp).1 := by
  obtain ⟨heartbeat, control, attended, queued⟩ := connection.attend_eq config now stamp
  rw [attended]
  refine ⟨rfl, rfl, fun opened => opened, List.suffix_refl _, ?_⟩
  intro payload waiting
  rcases queued with rfl | sends
  · exact Or.inl waiting
  · exact controls_send sends waiting

theorem dwindles_markClosed (connection : Connection) :
    Dwindles connection connection.markClosed :=
  ⟨rfl, rfl, fun opened => absurd opened (by simp [isOpen, markClosed]), List.suffix_refl _,
    fun _ => Or.inl⟩

theorem isOpen_beginDraining (connection : Connection) (reason : CloseReason) :
    (connection.beginDraining reason).1.isOpen = false := by
  rw [beginDraining]
  split
  · rfl
  · rename_i closing
    exact Bool.eq_false_iff.2 closing

theorem dwindles_beginDraining (connection : Connection) (reason : CloseReason) :
    Dwindles connection (connection.beginDraining reason).1 := by
  refine ⟨connection.id_beginDraining reason, ?_, ?_, ?_, ?_⟩
  · simp only [beginDraining]
    split <;> rfl
  · intro opened
    rw [isOpen_beginDraining] at opened
    cases opened
  · simp only [beginDraining]
    split <;> exact List.suffix_refl _
  · simp only [beginDraining]
    split <;> exact fun _ => Or.inl

theorem take_of_not_isOpen {connection : Connection} (closing : connection.isOpen = false)
    (payload : Payload) : connection.take payload = connection := by
  rw [take, if_neg (by simp [closing])]

theorem isOpen_take (payload : Payload) (connection : Connection) :
    (connection.take payload).isOpen = connection.isOpen := by
  rw [take]
  split <;> rfl

theorem identity_take (payload : Payload) (connection : Connection) :
    (connection.take payload).identity = connection.identity := by
  rw [take]
  split <;> rfl

end Connection

namespace Standing

def queue (standing : Standing) : List Payload :=
  standing.connection.elim [] fun connection => connection.buffer.queue

def controls (standing : Standing) : List Payload :=
  standing.connection.elim [] fun connection => connection.control.waiting

structure Dwindles (before after : Standing) : Prop where
  queue : after.queue <:+ before.queue
  controls : ∀ payload ∈ after.controls,
    payload ∈ before.controls ∨ ∃ message : ServerMessage, payload = message.toPayload

namespace Dwindles

variable {before middle after : Standing}

theorem of_connection_eq (same : after.connection = before.connection) :
    Dwindles before after where
  queue := by
    rw [Standing.queue, same]
    exact List.suffix_refl _
  controls := by
    rw [Standing.controls, same]
    exact fun _ => Or.inl

theorem refl (standing : Standing) : Dwindles standing standing :=
  of_connection_eq rfl

theorem trans (first : Dwindles before middle) (second : Dwindles middle after) :
    Dwindles before after where
  queue := second.queue.trans first.queue
  controls := by
    intro payload waiting
    rcases second.controls payload waiting with waiting | sent
    · exact first.controls payload waiting
    · exact Or.inr sent

end Dwindles

variable (standing : Standing)

theorem dwindles_amend {change : Connection → Connection}
    (dwindles : ∀ connection, Connection.Dwindles connection (change connection)) :
    standing.Dwindles (standing.amend change) := by
  cases found : standing.connection with
  | none => exact .of_connection_eq (by simp [amend, found])
  | some connection =>
      constructor
      · simpa [queue, amend, found] using (dwindles connection).queue
      · simpa [controls, amend, found] using (dwindles connection).controls

theorem dwindles_enroll (config : HubConfig) (id : ConnectionId) (identity : Identity)
    (version : UInt32) :
    standing.Dwindles (standing.enroll (.create config id identity version)) where
  queue := List.nil_suffix
  controls := by
    intro payload waiting
    cases waiting

theorem dwindles_subscribe (limit : Nat) (events : List EventType) (clusters : List String) :
    standing.Dwindles (standing.subscribe limit events clusters) := by
  apply Dwindles.of_connection_eq
  rw [subscribe]
  split
  · split <;> rfl
  · rfl

theorem dwindles_beginDraining (reason : CloseReason) :
    standing.Dwindles (standing.beginDraining reason) :=
  standing.dwindles_amend fun connection => connection.dwindles_beginDraining reason

theorem dwindles_leave (reason : CloseReason) : standing.Dwindles (standing.leave reason) := by
  rw [leave]
  split
  · exact (standing.dwindles_beginDraining reason).trans (.of_connection_eq rfl)
  · exact .refl standing

theorem dwindles_close (reason : CloseReason) : standing.Dwindles (standing.close reason) := by
  rw [close]
  split
  · exact (standing.dwindles_leave reason).trans
      ((standing.leave reason).dwindles_amend Connection.dwindles_markClosed)
  · exact .refl standing

theorem dwindles_visit (config : HeartbeatConfig) (now : Instant) (stamp : UInt64) :
    standing.Dwindles (standing.visit config now stamp) := by
  rw [visit]
  split
  · exact standing.dwindles_amend fun connection => connection.dwindles_attend config now stamp
  · exact .refl standing

theorem dwindles_tick (config : HeartbeatConfig) (now : Instant) (stamp : UInt64) :
    standing.Dwindles (standing.tick config now stamp) := by
  have visited := standing.dwindles_visit config now stamp
  rw [tick]
  split
  · exact visited.trans ((standing.visit config now stamp).dwindles_close .heartbeatTimeout)
  · exact visited

/-- Whatever is done to a connection, other than offering it an event. -/
theorem dwindles_apply (config : HubConfig) (id : ConnectionId) {operation : Hub.Operation}
    (quiet : operation.isRoute = false) :
    standing.Dwindles (standing.apply config id operation) := by
  cases operation with
  | register other identity version => exact standing.dwindles_enroll config id identity version
  | subscribe other events clusters => exact standing.dwindles_subscribe _ events clusters
  | unsubscribe other events => exact .of_connection_eq rfl
  | route event => cases quiet
  | dequeue other => exact standing.dwindles_amend Connection.dwindles_dequeue
  | clear other => exact standing.dwindles_amend Connection.dwindles_clear
  | tend other upkeep => exact standing.dwindles_amend (Connection.dwindles_upkeep upkeep)
  | beginDraining other reason => exact standing.dwindles_beginDraining reason
  | markClosed other => exact standing.dwindles_amend Connection.dwindles_markClosed
  | beginClose other reason => exact standing.dwindles_leave reason
  | finishClose other asked => exact standing.dwindles_amend Connection.dwindles_markClosed
  | close other reason => exact standing.dwindles_close reason
  | survey now stamp => exact standing.dwindles_visit config.heartbeat now stamp
  | tick now stamp => exact standing.dwindles_tick config.heartbeat now stamp
  | shutdown => exact standing.dwindles_close .serverShutdown
  | report entry => exact .refl standing

end Standing

end EventHub
