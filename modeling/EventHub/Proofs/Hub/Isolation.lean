import EventHub.Proofs.Hub.BufferHistory
import EventHub.Proofs.Hub.Soundness

/-!
No client feels another. What a run of the hub makes of a connection's buffer is what the buffer,
left to itself, makes of the connection's own trace.
-/

namespace EventHub

namespace Connection

theorem buffer_upkeep (upkeep : Upkeep) (connection : Connection) :
    (upkeep.apply connection).buffer = connection.buffer := by
  obtain ⟨heartbeat, control, attached, finished, applied⟩ := upkeep.apply_eq connection
  rw [applied]

theorem buffer_attend (config : HeartbeatConfig) (now : Instant) (stamp : UInt64)
    (connection : Connection) :
    (connection.attend config now stamp).1.buffer = connection.buffer := by
  obtain ⟨heartbeat, control, attended, -⟩ := connection.attend_eq config now stamp
  rw [attended]

theorem buffer_beginDraining (reason : CloseReason) (connection : Connection) :
    (connection.beginDraining reason).1.buffer = connection.buffer := by
  rw [beginDraining]
  split <;> rfl

end Connection

namespace Standing

/-- The buffer of the connection, a new one where there is none yet. -/
def buffer (config : HubConfig) (standing : Standing) : Buffer :=
  standing.connection.elim (.ofConfig config.buffer) fun connection => connection.buffer

variable (config : HubConfig) (standing : Standing)

theorem buffer_amend (step : Buffer → Buffer) {change : Connection → Connection}
    (changes : ∀ connection, (change connection).buffer = step connection.buffer)
    (fresh : step (.ofConfig config.buffer) = .ofConfig config.buffer) :
    (standing.amend change).buffer config = step (standing.buffer config) := by
  rw [buffer, buffer, amend]
  cases standing.connection with
  | none => exact fresh.symm
  | some connection => exact changes connection

theorem buffer_amend_of_eq {change : Connection → Connection}
    (keeps : ∀ connection, (change connection).buffer = connection.buffer) :
    (standing.amend change).buffer config = standing.buffer config := by
  rw [buffer, buffer, amend]
  cases standing.connection with
  | none => rfl
  | some connection => exact keeps connection

theorem buffer_subscribe (limit : Nat) (events : List EventType) (clusters : List String) :
    (standing.subscribe limit events clusters).buffer config = standing.buffer config := by
  rw [subscribe]
  split
  · split <;> rfl
  · rfl

theorem buffer_leave (reason : CloseReason) :
    (standing.leave reason).buffer config = standing.buffer config := by
  rw [leave]
  split
  · exact standing.buffer_amend_of_eq config (Connection.buffer_beginDraining reason)
  · rfl

theorem buffer_close (reason : CloseReason) :
    (standing.close reason).buffer config = standing.buffer config := by
  rw [close]
  split
  · refine Eq.trans ?_ (standing.buffer_leave config reason)
    exact (standing.leave reason).buffer_amend_of_eq config fun _ => rfl
  · rfl

theorem buffer_visit (beat : HeartbeatConfig) (now : Instant) (stamp : UInt64) :
    (standing.visit beat now stamp).buffer config = standing.buffer config := by
  rw [visit]
  split
  · exact standing.buffer_amend_of_eq config (Connection.buffer_attend beat now stamp)
  · rfl

theorem buffer_tick (beat : HeartbeatConfig) (now : Instant) (stamp : UInt64) :
    (standing.tick beat now stamp).buffer config = standing.buffer config := by
  rw [tick]
  split
  · rw [buffer_close, buffer_visit]
  · exact standing.buffer_visit config beat now stamp

theorem buffer_offer (event : Event)
    (registered_of_isOpen : standing.isOpen = true → standing.registered = true) :
    (standing.offer event).buffer config =
      if standing.isOpen && standing.holding.wants event then
        ((standing.buffer config).enqueue event.toPayload).1
      else standing.buffer config := by
  by_cases taken : standing.isOpen = true ∧ standing.holding.wants event = true
  · obtain ⟨opened, wants⟩ := taken
    obtain ⟨connection, found, accepting⟩ := (Option.any_eq_true _ _).1 opened
    rw [opened, wants, buffer, buffer,
      offer_of_taken found (registered_of_isOpen opened) accepting wants, found]
    rfl
  · rw [offer_of_ignored fun offered => taken offered.2, if_neg (by simpa using taken)]

end Standing

namespace Hub

/-- What an operation does to the buffer of a connection, if it is any of the connection's
business. -/
def bufferStep? (hub : Hub) (id : ConnectionId) : Operation → Option Buffer.Step
  | .route event =>
      if hub.isOpen id && (hub.index.filter? id event.eventType).any (·.accepts event.cluster) then
        some (.enqueue event.toPayload)
      else none
  | .dequeue other => if other = id then some .dequeue else none
  | .clear other => if other = id then some .clear else none
  | _ => none

/-- A connection's own trace in a run. -/
def bufferTrace (id : ConnectionId) : Hub → List Operation → List Buffer.Step
  | _, [] => []
  | hub, operation :: rest =>
      (hub.bufferStep? id operation).toList ++ bufferTrace id (hub.apply operation) rest

variable {hub : Hub}

theorem bufferStep?_of_unconcerned {id : ConnectionId} {operation : Operation}
    (unconcerned : ¬hub.concerns id operation = true) : hub.bufferStep? id operation = none := by
  cases operation with
  | route event => exact absurd rfl unconcerned
  | dequeue other =>
      have different : ¬other = id := by simpa [concerns] using unconcerned
      exact if_neg different
  | clear other =>
      have different : ¬other = id := by simpa [concerns] using unconcerned
      exact if_neg different
  | _ => rfl

theorem buffer_apply (sound : hub.Sound) (id : ConnectionId) (operation : Operation) :
    ((hub.apply operation).standing id).buffer hub.config =
      (hub.bufferStep? id operation).toList.foldl Buffer.Step.apply
        ((hub.standing id).buffer hub.config) := by
  rw [(effect_apply sound.wellFormed operation).standing]
  split
  · rename_i concerned
    let standing := hub.standing id
    cases operation with
    | register other identity version =>
        have fresh : standing.connection = none := get?_eq_none_of_concerns concerned
        have buffer_eq : standing.buffer hub.config = .ofConfig hub.config.buffer := by
          rw [Standing.buffer, fresh]
          rfl
        exact buffer_eq.symm
    | subscribe other events clusters =>
        exact standing.buffer_subscribe hub.config _ events clusters
    | unsubscribe other events => rfl
    | route event =>
        have offered := standing.buffer_offer hub.config event
          (sound.standing id).registered_of_isOpen
        refine offered.trans ?_
        have step_eq : hub.bufferStep? id (.route event) =
            if standing.isOpen && standing.holding.wants event then
              some (.enqueue event.toPayload)
            else none := rfl
        rw [step_eq]
        split
        · rfl
        · rfl
    | dequeue other =>
        have same : other = id := by simpa [concerns] using concerned
        rw [bufferStep?, if_pos same]
        exact standing.buffer_amend hub.config (fun buffer => buffer.dequeue.1) (fun _ => rfl) rfl
    | clear other =>
        have same : other = id := by simpa [concerns] using concerned
        rw [bufferStep?, if_pos same]
        exact standing.buffer_amend hub.config Buffer.clear (fun _ => rfl) rfl
    | tend other upkeep =>
        exact standing.buffer_amend_of_eq hub.config (Connection.buffer_upkeep upkeep)
    | beginDraining other reason =>
        exact standing.buffer_amend_of_eq hub.config (Connection.buffer_beginDraining reason)
    | markClosed other => exact standing.buffer_amend_of_eq hub.config fun _ => rfl
    | beginClose other reason => exact standing.buffer_leave hub.config reason
    | finishClose other asked => exact standing.buffer_amend_of_eq hub.config fun _ => rfl
    | close other reason => exact standing.buffer_close hub.config reason
    | survey now stamp => exact standing.buffer_visit hub.config _ now stamp
    | tick now stamp => exact standing.buffer_tick hub.config _ now stamp
    | shutdown => exact standing.buffer_close hub.config .serverShutdown
    | report entry => rfl
  · rename_i unconcerned
    rw [bufferStep?_of_unconcerned unconcerned]
    rfl

theorem foldl_bufferTrace (sound : hub.Sound) (id : ConnectionId) (operations : List Operation) :
    ((hub.run operations).standing id).buffer hub.config =
      (bufferTrace id hub operations).foldl Buffer.Step.apply
        ((hub.standing id).buffer hub.config) := by
  induction operations generalizing hub with
  | nil => rfl
  | cons operation rest ih =>
      have effect := effect_apply sound.wellFormed operation
      rw [run_cons, bufferTrace, List.foldl_append, ← buffer_apply sound, ← effect.config]
      exact ih (sound.apply operation)

/-- A connection's buffer is what its own trace makes of a new buffer, and runs that agree on the
connection's own operations, the routed events among them, give it the same buffer. -/
theorem buffer_isolated (config : HubConfig) (id : ConnectionId) (operations : List Operation) :
    (∀ connection, ((ofConfig config).run operations).get? id = some connection →
      connection.buffer =
        (bufferTrace id (ofConfig config) operations).foldl Buffer.Step.apply
          (.ofConfig config.buffer)) ∧
      ∀ others, own id (ofConfig config) others = own id (ofConfig config) operations →
        (((ofConfig config).run others).get? id).map Connection.buffer =
          (((ofConfig config).run operations).get? id).map Connection.buffer := by
  constructor
  · intro connection found
    have folded := foldl_bufferTrace (sound_ofConfig config) id operations
    rw [Standing.buffer, standing, found] at folded
    exact folded
  · intro others agree
    have wellFormed := wellFormed_ofConfig config
    have same : ((ofConfig config).run others).standing id =
        ((ofConfig config).run operations).standing id := by
      rw [standing_run wellFormed, standing_run wellFormed, agree]
    have sameConnection := congrArg Standing.connection same
    exact congrArg (Option.map Connection.buffer) sameConnection

/-- A client alone, and beside one that never reads and is closed in the end. -/
theorem buffer_isolated_from_slow :
    (((ofConfig {}).run
        [.register "slow" { subject := "a" } 1, .register "c" { subject := "b" } 1,
          .subscribe "slow" ["alert"] [], .subscribe "c" ["alert"] [],
          .route ⟨"alert", "west", .null, 0⟩, .dequeue "c", .close "slow" .heartbeatTimeout,
          .route ⟨"alert", "east", .null, 1⟩]).get? "c").map Connection.buffer =
      (((ofConfig {}).run
        [.register "c" { subject := "b" } 1, .subscribe "c" ["alert"] [],
          .route ⟨"alert", "west", .null, 0⟩, .dequeue "c",
          .route ⟨"alert", "east", .null, 1⟩]).get? "c").map Connection.buffer :=
  (buffer_isolated {} "c"
    [.register "c" { subject := "b" } 1, .subscribe "c" ["alert"] [],
      .route ⟨"alert", "west", .null, 0⟩, .dequeue "c",
      .route ⟨"alert", "east", .null, 1⟩]).2
    [.register "slow" { subject := "a" } 1, .register "c" { subject := "b" } 1,
      .subscribe "slow" ["alert"] [], .subscribe "c" ["alert"] [],
      .route ⟨"alert", "west", .null, 0⟩, .dequeue "c", .close "slow" .heartbeatTimeout,
      .route ⟨"alert", "east", .null, 1⟩] (by rfl)

end Hub

end EventHub
