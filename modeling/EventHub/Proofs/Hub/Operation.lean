import EventHub.Proofs.Hub.Survey

/-!
The hub's operations as data, so that a run is a list of them. The projection of a run onto one
connection is a run of its own: `standing_run` computes where a connection stands from those
operations alone that concern it.
-/

namespace EventHub

/-- What is done to one connection, leaving its buffer, its lifecycle and its place in the hub. -/
inductive Upkeep where
  | pong (now : Instant)
  | beat (config : HeartbeatConfig) (now : Instant)
  | markDead
  | sendControl (message : ServerMessage)
  | takeReader
  | receiveControl
  | dropReader
  | attach
  | finish
  deriving DecidableEq

def Upkeep.apply (upkeep : Upkeep) (connection : Connection) : Connection :=
  match upkeep with
  | pong now => connection.recordPong now
  | beat config now => (connection.heartbeatTick config now).1
  | markDead => connection.markDead
  | sendControl message => (connection.sendControl message).toOption.getD connection
  | takeReader => { connection with control := connection.control.take?.getD connection.control }
  | receiveControl =>
      match connection.control.receive? with
      | some (_, control) => { connection with control }
      | none => connection
  | dropReader => { connection with control := connection.control.drop }
  | attach => connection.attach.1
  | finish => connection.markFinished

theorem Upkeep.apply_eq (upkeep : Upkeep) (connection : Connection) :
    ∃ heartbeat control attached finished,
      upkeep.apply connection = { connection with heartbeat, control, attached, finished } := by
  cases upkeep with
  | pong now => exact ⟨_, _, _, _, rfl⟩
  | beat config now => exact ⟨_, _, _, _, rfl⟩
  | markDead => exact ⟨_, _, _, _, rfl⟩
  | sendControl message =>
      simp only [apply]
      cases sent : connection.sendControl message with
      | error cause => exact ⟨_, _, _, _, rfl⟩
      | ok next =>
          obtain ⟨control, -, rfl⟩ := Connection.sendControl_eq_ok sent
          exact ⟨_, control, _, _, rfl⟩
  | takeReader => exact ⟨_, _, _, _, rfl⟩
  | receiveControl =>
      simp only [apply]
      split
      · exact ⟨_, _, _, _, rfl⟩
      · exact ⟨_, _, _, _, rfl⟩
  | dropReader => exact ⟨_, _, _, _, rfl⟩
  | attach => exact ⟨_, _, _, _, rfl⟩
  | finish => exact ⟨_, _, _, _, rfl⟩

theorem Upkeep.apply_sendControl (message : ServerMessage) (connection : Connection) :
    (Upkeep.sendControl message).apply connection =
      match connection.sendControl message with
      | .ok sent => sent
      | .error _ => connection := by
  rw [Upkeep.apply]
  cases connection.sendControl message with
  | ok sent => rfl
  | error cause => rfl

theorem Upkeep.id_apply (upkeep : Upkeep) (connection : Connection) :
    (upkeep.apply connection).id = connection.id := by
  obtain ⟨heartbeat, control, attached, finished, applied⟩ := upkeep.apply_eq connection
  rw [applied]

inductive Hub.Operation where
  | register (id : ConnectionId) (identity : Identity) (version : UInt32)
  | subscribe (id : ConnectionId) (events : List EventType) (clusters : List String)
  | unsubscribe (id : ConnectionId) (events : List EventType)
  | route (event : Event)
  | dequeue (id : ConnectionId)
  | clear (id : ConnectionId)
  | tend (id : ConnectionId) (upkeep : Upkeep)
  | beginDraining (id : ConnectionId) (reason : CloseReason)
  | markClosed (id : ConnectionId)
  | beginClose (id : ConnectionId) (reason : CloseReason)
  | finishClose (id : ConnectionId) (asked : CloseReason)
  | close (id : ConnectionId) (reason : CloseReason)
  | survey (now : Instant) (stamp : UInt64)
  | tick (now : Instant) (stamp : UInt64)
  | shutdown
  | report (entry : Report)

def Hub.Operation.isRoute : Hub.Operation → Bool
  | .route _ => true
  | _ => false

namespace Hub

/-- Takes in a client if there is room. Ids are fresh, so under a used one nothing happens. -/
def admission (hub : Hub) (id : ConnectionId) (identity : Identity) (version : UInt32) : Hub :=
  if (hub.get? id).isSome then hub
  else (hub.register id identity version).toOption.getD hub

def apply (hub : Hub) (operation : Operation) : Hub :=
  match operation with
  | .register id identity version => hub.admission id identity version
  | .subscribe id events clusters => (hub.subscribe id events clusters).1
  | .unsubscribe id events => (hub.unsubscribe id events).1
  | .route event => (hub.route event).1
  | .dequeue id => hub.modify id fun connection => connection.dequeue.1
  | .clear id => hub.modify id Connection.clear
  | .tend id upkeep => hub.modify id upkeep.apply
  | .beginDraining id reason => (hub.beginDraining id reason).1
  | .markClosed id => hub.modify id Connection.markClosed
  | .beginClose id reason => (hub.beginClose? id reason).getD hub
  | .finishClose id asked => hub.finishClose id asked
  | .close id reason => (hub.close id reason).1
  | .survey now stamp => (hub.survey now stamp).1
  | .tick now stamp => (hub.tick now stamp).1
  | .shutdown => hub.shutdown.1
  | .report entry => hub.report entry

def run (hub : Hub) (operations : List Operation) : Hub :=
  operations.foldl apply hub

@[simp] theorem run_nil (hub : Hub) : hub.run [] = hub := rfl

@[simp] theorem run_cons (hub : Hub) (operation : Operation) (rest : List Operation) :
    hub.run (operation :: rest) = (hub.apply operation).run rest := rfl

theorem run_append (hub : Hub) (earlier later : List Operation) :
    hub.run (earlier ++ later) = (hub.run earlier).run later :=
  List.foldl_append

/-- The operations that are about one connection: those that name it, and those that go through
all connections. A registration is about it when it takes it in. -/
def concerns (hub : Hub) (id : ConnectionId) : Operation → Bool
  | .register other _ _ =>
      other = id && (hub.get? id).isNone && hub.count < hub.config.maxConnections
  | .subscribe other _ _ | .unsubscribe other _ | .dequeue other | .clear other
  | .tend other _ | .beginDraining other _ | .markClosed other | .beginClose other _
  | .finishClose other _ | .close other _ => other = id
  | .route _ | .survey _ _ | .tick _ _ | .shutdown => true
  | .report _ => false

/-- A connection's own operations in a run. -/
def own (id : ConnectionId) : Hub → List Operation → List Operation
  | _, [] => []
  | hub, operation :: rest =>
      if hub.concerns id operation then operation :: own id (hub.apply operation) rest
      else own id (hub.apply operation) rest

end Hub

/-- What an operation that concerns it does to the standing of `id`. -/
def Standing.apply (config : HubConfig) (id : ConnectionId) (standing : Standing)
    (operation : Hub.Operation) : Standing :=
  match operation with
  | .register _ identity version => standing.enroll (.create config id identity version)
  | .subscribe _ events clusters => standing.subscribe config.maxSubscriptions events clusters
  | .unsubscribe _ events => standing.unsubscribe events
  | .route event => standing.offer event
  | .dequeue _ => standing.amend fun connection => connection.dequeue.1
  | .clear _ => standing.amend Connection.clear
  | .tend _ upkeep => standing.amend upkeep.apply
  | .beginDraining _ reason => standing.beginDraining reason
  | .markClosed _ => standing.amend Connection.markClosed
  | .beginClose _ reason => standing.leave reason
  | .finishClose _ _ => standing.amend Connection.markClosed
  | .close _ reason => standing.close reason
  | .survey now stamp => standing.visit config.heartbeat now stamp
  | .tick now stamp => standing.tick config.heartbeat now stamp
  | .shutdown => standing.close .serverShutdown
  | .report _ => standing

namespace Standing

variable (standing : Standing)

theorem isSome_amend (change : Connection → Connection) :
    (standing.amend change).connection.isSome = standing.connection.isSome := by
  simp [amend]

theorem isSome_leave (reason : CloseReason) :
    (standing.leave reason).connection.isSome = standing.connection.isSome := by
  rw [leave]
  split
  · exact standing.isSome_amend _
  · rfl

theorem isSome_close (reason : CloseReason) :
    (standing.close reason).connection.isSome = standing.connection.isSome := by
  rw [close]
  split
  · rw [isSome_amend, isSome_leave]
  · rfl

theorem isSome_visit (config : HeartbeatConfig) (now : Instant) (stamp : UInt64) :
    (standing.visit config now stamp).connection.isSome = standing.connection.isSome := by
  rw [visit]
  split
  · exact standing.isSome_amend _
  · rfl

theorem isSome_apply (config : HubConfig) (id : ConnectionId) (operation : Hub.Operation)
    (known : standing.connection.isSome = true) :
    (standing.apply config id operation).connection.isSome = true := by
  cases operation with
  | register other identity version => rfl
  | subscribe other events clusters =>
      simp only [apply, subscribe]
      split
      · split
        · exact known
        · exact known
      · exact known
  | unsubscribe other events => exact known
  | route event =>
      simp only [apply, offer]
      split
      · exact (standing.isSome_amend _).trans known
      · exact known
  | dequeue other => exact (standing.isSome_amend _).trans known
  | clear other => exact (standing.isSome_amend _).trans known
  | tend other upkeep => exact (standing.isSome_amend _).trans known
  | beginDraining other reason => exact (standing.isSome_amend _).trans known
  | markClosed other => exact (standing.isSome_amend _).trans known
  | beginClose other reason => exact (standing.isSome_leave reason).trans known
  | finishClose other asked => exact (standing.isSome_amend _).trans known
  | close other reason => exact (standing.isSome_close reason).trans known
  | survey now stamp => exact (standing.isSome_visit _ now stamp).trans known
  | tick now stamp =>
      have visited := (standing.isSome_visit config.heartbeat now stamp).trans known
      simp only [apply, tick]
      split
      · exact (isSome_close _ _).trans visited
      · exact visited
  | shutdown => exact (standing.isSome_close _).trans known
  | report entry => exact known

end Standing

namespace Hub

variable {hub : Hub}

theorem effect_admission (wellFormed : hub.WellFormed) (id : ConnectionId) (identity : Identity)
    (version : UInt32) :
    Effect hub (hub.admission id identity version) fun other standing =>
      if hub.concerns other (.register id identity version) then
        standing.enroll (.create hub.config other identity version)
      else standing := by
  rw [admission]
  split
  · rename_i known
    refine (Effect.refl wellFormed).congr fun other => ?_
    have unconcerned : hub.concerns other (.register id identity version) = false := by
      simp only [concerns, Bool.and_eq_false_iff, decide_eq_false_iff_not]
      by_cases same : id = other
      · subst same
        exact Or.inl (Or.inr (by simpa using known))
      · exact Or.inl (Or.inl same)
    rw [unconcerned]
    rfl
  · rename_i unknown
    have fresh : hub.get? id = none := by simpa using unknown
    by_cases room : hub.count < hub.config.maxConnections
    · obtain ⟨next, accepted⟩ : ∃ next, hub.register id identity version = .ok next :=
        ⟨_, if_neg (Nat.not_le.2 room)⟩
      rw [accepted]
      refine (effect_register wellFormed fresh accepted).congr fun other => ?_
      by_cases same : other = id
      · subst same
        simp [concerns, fresh, room]
      · simp [concerns, Standing.onlyAt, same, Ne.symm same]
    · have refused : hub.register id identity version =
          .error (.capacityExceeded hub.config.maxConnections) := if_pos (Nat.not_lt.1 room)
      rw [refused]
      refine (Effect.refl wellFormed).congr fun other => ?_
      simp [concerns, room]

theorem Effect.concerning {next : Hub} {id : ConnectionId} {turn : Standing → Standing}
    (effect : Effect hub next (Standing.onlyAt id turn)) :
    Effect hub next fun other standing =>
      if decide (id = other) = true then turn standing else standing := by
  refine effect.congr fun other => ?_
  by_cases same : other = id
  · subst same
    simp
  · simp [Standing.onlyAt, same, Ne.symm same]

theorem effect_apply (wellFormed : hub.WellFormed) (operation : Operation) :
    Effect hub (hub.apply operation) fun id standing =>
      if hub.concerns id operation then standing.apply hub.config id operation else standing := by
  cases operation with
  | register id identity version => exact effect_admission wellFormed id identity version
  | subscribe id events clusters =>
      exact (effect_subscribe wellFormed id events clusters).concerning
  | unsubscribe id events => exact (effect_unsubscribe wellFormed id events).concerning
  | route event => exact effect_route wellFormed event
  | dequeue id =>
      exact (effect_modify wellFormed id (fun connection => connection.dequeue.1)
        fun _ => rfl).concerning
  | clear id => exact (effect_modify wellFormed id Connection.clear fun _ => rfl).concerning
  | tend id upkeep => exact (effect_modify wellFormed id _ upkeep.id_apply).concerning
  | beginDraining id reason => exact (effect_beginDraining wellFormed id reason).concerning
  | markClosed id =>
      exact (effect_modify wellFormed id Connection.markClosed fun _ => rfl).concerning
  | beginClose id reason => exact (effect_beginClose wellFormed id reason).concerning
  | finishClose id asked => exact (effect_finishClose wellFormed id asked).concerning
  | close id reason => exact (effect_close wellFormed id reason).concerning
  | survey now stamp => exact effect_survey wellFormed now stamp
  | tick now stamp => exact effect_tick wellFormed now stamp
  | shutdown => exact effect_shutdown wellFormed
  | report entry => exact effect_report wellFormed entry

theorem wellFormed_run (wellFormed : hub.WellFormed) (operations : List Operation) :
    (hub.run operations).WellFormed := by
  induction operations generalizing hub with
  | nil => exact wellFormed
  | cons operation rest ih => exact ih (effect_apply wellFormed operation).wellFormed

theorem config_run (wellFormed : hub.WellFormed) (operations : List Operation) :
    (hub.run operations).config = hub.config := by
  induction operations generalizing hub with
  | nil => rfl
  | cons operation rest ih =>
      have effect := effect_apply wellFormed operation
      exact (ih effect.wellFormed).trans effect.config

theorem invariant_run {holds : Standing → Prop}
    (kept : ∀ config id standing operation, holds standing →
      holds (Standing.apply config id standing operation))
    (wellFormed : hub.WellFormed) {id : ConnectionId} (operations : List Operation)
    (atFirst : holds (hub.standing id)) : holds ((hub.run operations).standing id) := by
  induction operations generalizing hub with
  | nil => exact atFirst
  | cons operation rest ih =>
      have effect := effect_apply wellFormed operation
      refine ih effect.wellFormed ?_
      rw [effect.standing]
      split
      · exact kept hub.config id (hub.standing id) operation atFirst
      · exact atFirst

theorem known_run (wellFormed : hub.WellFormed) {id : ConnectionId} (operations : List Operation)
    (known : (hub.standing id).connection.isSome = true) :
    ((hub.run operations).standing id).connection.isSome = true :=
  invariant_run (fun config id standing operation => standing.isSome_apply config id operation)
    wellFormed operations known

/-- Where a connection stands after a run, its own operations tell. -/
theorem standing_run (wellFormed : hub.WellFormed) (id : ConnectionId)
    (operations : List Operation) :
    (hub.run operations).standing id =
      (own id hub operations).foldl (Standing.apply hub.config id) (hub.standing id) := by
  induction operations generalizing hub with
  | nil => rfl
  | cons operation rest ih =>
      have effect := effect_apply wellFormed operation
      rw [run_cons, ih effect.wellFormed, effect.config, effect.standing, own]
      split
      · rfl
      · rfl

end Hub

end EventHub
