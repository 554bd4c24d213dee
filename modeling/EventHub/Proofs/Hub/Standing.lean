import EventHub.Hub.Monitor
import EventHub.Hub.Routing
import EventHub.Proofs.Hub.Holding

/-!
Where one connection stands in the hub: its own state, whether it is registered, and its holding
in the subscription index. Whatever the hub does, it does to each standing by itself. `Effect`
says so for one operation: what becomes of a standing is a function of that standing alone.
-/

namespace EventHub

namespace Connection

/-- Takes an event, unless the connection is closing. -/
def take (payload : Payload) (connection : Connection) : Connection :=
  if connection.isOpen then
    { connection with buffer := (connection.buffer.enqueue payload).1 }
  else connection

/-- Queues a ping; the flag says that this was not possible. -/
def tryPing (stamp : UInt64) (connection : Connection) : Connection × Bool :=
  match connection.sendControl (.ping stamp) with
  | .ok pinged => (pinged, false)
  | .error _ => (connection.markDead, true)

/-- One turn of the heartbeat monitor; the flag says that the connection has to go. -/
def attend (config : HeartbeatConfig) (now : Instant) (stamp : UInt64)
    (connection : Connection) : Connection × Bool :=
  match connection.heartbeatTick config now with
  | (ticked, .wait) => (ticked, false)
  | (ticked, .evict) => (ticked, true)
  | (ticked, .sendPing) => ticked.tryPing stamp

theorem id_take (payload : Payload) (connection : Connection) :
    (connection.take payload).id = connection.id := by
  rw [take]
  split <;> rfl

theorem enqueue?_eq_some {connection taken : Connection} {payload : Payload}
    {outcome : Enqueued} (accepted : connection.enqueue? payload = some (taken, outcome)) :
    connection.isOpen = true ∧ taken = connection.take payload := by
  rw [enqueue?] at accepted
  split at accepted
  · rename_i opened
    cases accepted
    exact ⟨opened, (if_pos opened).symm⟩
  · cases accepted

theorem sendControl_eq_ok {connection next : Connection} {message : ServerMessage}
    (sent : connection.sendControl message = .ok next) :
    ∃ control, connection.control.send message.toPayload = .ok control ∧
      next = { connection with control } := by
  simp only [sendControl] at sent
  cases result : connection.control.send message.toPayload with
  | error cause => simp [result, Except.map] at sent
  | ok control =>
      rw [result] at sent
      exact ⟨control, rfl, (Except.ok.inj sent).symm⟩

theorem tryPing_eq (stamp : UInt64) (connection : Connection) :
    ∃ heartbeat control,
      (connection.tryPing stamp).1 = { connection with heartbeat, control } ∧
        (control = connection.control ∨
          connection.control.send (ServerMessage.ping stamp).toPayload = .ok control) := by
  simp only [tryPing]
  cases sent : connection.sendControl (.ping stamp) with
  | error cause =>
      exact ⟨connection.heartbeat.markDead, connection.control, rfl, Or.inl rfl⟩
  | ok pinged =>
      obtain ⟨control, queued, rfl⟩ := sendControl_eq_ok sent
      exact ⟨connection.heartbeat, control, rfl, Or.inr queued⟩

theorem attend_eq (config : HeartbeatConfig) (now : Instant) (stamp : UInt64)
    (connection : Connection) :
    ∃ heartbeat control,
      (connection.attend config now stamp).1 = { connection with heartbeat, control } ∧
        (control = connection.control ∨
          connection.control.send (ServerMessage.ping stamp).toPayload = .ok control) := by
  simp only [attend, heartbeatTick]
  cases ticking : Heartbeat.tick config connection.heartbeat now with
  | mk heartbeat action =>
      cases action with
      | wait => exact ⟨heartbeat, connection.control, rfl, Or.inl rfl⟩
      | evict => exact ⟨heartbeat, connection.control, rfl, Or.inl rfl⟩
      | sendPing =>
          obtain ⟨later, control, pinged, queued⟩ :=
            tryPing_eq stamp { connection with heartbeat }
          exact ⟨later, control, pinged, queued⟩

theorem id_tryPing (stamp : UInt64) (connection : Connection) :
    (connection.tryPing stamp).1.id = connection.id := by
  obtain ⟨heartbeat, control, pinged, -⟩ := connection.tryPing_eq stamp
  rw [pinged]

theorem id_beginDraining (connection : Connection) (reason : CloseReason) :
    (connection.beginDraining reason).1.id = connection.id := by
  simp only [beginDraining]
  split <;> rfl

end Connection

structure Standing where
  connection : Option Connection
  registered : Bool
  holding : Holding

namespace Standing

/-- The standing of an id that was never taken. -/
def none : Standing where
  connection := .none
  registered := false
  holding := .none

def isOpen (standing : Standing) : Bool :=
  standing.connection.any Connection.isOpen

def amend (change : Connection → Connection) (standing : Standing) : Standing :=
  { standing with connection := standing.connection.map change }

def enroll (connection : Connection) (standing : Standing) : Standing :=
  { standing with connection := some connection, registered := true }

/-- What an open connection gets of the clusters it asks for. -/
def grant (clusters : List String) (standing : Standing) : Option NameSet :=
  match standing.connection with
  | some connection =>
      if connection.isOpen then
        (connection.identity.clusters.narrow (NameSet.ofList clusters)).toOption
      else .none
  | .none => .none

def subscribe (limit : Nat) (events : List EventType) (clusters : List String)
    (standing : Standing) : Standing :=
  match standing.grant clusters with
  | some granted =>
      if standing.holding.fits limit events then
        { standing with holding := standing.holding.insertAll ⟨granted⟩ events }
      else standing
  | .none => standing

def unsubscribe (events : List EventType) (standing : Standing) : Standing :=
  { standing with holding := standing.holding.eraseAll events }

/-- An event goes by; it is taken where it is wanted. -/
def offer (event : Event) (standing : Standing) : Standing :=
  if standing.registered && standing.holding.wants event then
    standing.amend (Connection.take event.toPayload)
  else standing

def beginDraining (reason : CloseReason) (standing : Standing) : Standing :=
  standing.amend fun connection => (connection.beginDraining reason).1

/-- The part of a close before the wait for the session. -/
def leave (reason : CloseReason) (standing : Standing) : Standing :=
  if standing.registered then
    { connection := (standing.beginDraining reason).connection
      registered := false
      holding := standing.holding.clear }
  else standing

def close (reason : CloseReason) (standing : Standing) : Standing :=
  if standing.registered then (standing.leave reason).amend Connection.markClosed else standing

def visit (config : HeartbeatConfig) (now : Instant) (stamp : UInt64) (standing : Standing) :
    Standing :=
  if standing.registered && standing.isOpen then
    standing.amend fun connection => (connection.attend config now stamp).1
  else standing

/-- The monitor's turn ends with the connection's eviction. -/
def isCondemned (config : HeartbeatConfig) (now : Instant) (stamp : UInt64)
    (standing : Standing) : Bool :=
  standing.registered && standing.connection.any fun connection =>
    connection.isOpen && (connection.attend config now stamp).2

def tick (config : HeartbeatConfig) (now : Instant) (stamp : UInt64) (standing : Standing) :
    Standing :=
  if standing.isCondemned config now stamp then
    (standing.visit config now stamp).close .heartbeatTimeout
  else standing.visit config now stamp

theorem isOpen_of_grant {standing : Standing} {clusters : List String} {granted : NameSet}
    (grants : standing.grant clusters = some granted) : standing.isOpen = true := by
  simp only [grant] at grants
  split at grants
  · rename_i connection found
    split at grants
    · rename_i opened
      simpa [isOpen, found] using opened
    · cases grants
  · cases grants

theorem close_close (reason : CloseReason) (standing : Standing) :
    (standing.close reason).close reason = standing.close reason := by
  cases registered : standing.registered with
  | true =>
      have left : (standing.close reason).registered = false := by
        simp [close, leave, amend, registered]
      rw [close, left]
      rfl
  | false => simp [close, registered]

/-- A change of one standing that leaves all others alone. -/
def onlyAt (id : ConnectionId) (change : Standing → Standing) :
    ConnectionId → Standing → Standing :=
  fun other standing => if other = id then change standing else standing

@[simp] theorem onlyAt_self (id : ConnectionId) (change : Standing → Standing)
    (standing : Standing) : onlyAt id change id standing = change standing :=
  if_pos rfl

end Standing
end EventHub
