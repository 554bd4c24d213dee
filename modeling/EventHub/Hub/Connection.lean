import EventHub.Auth.Identity
import EventHub.Hub.Buffer
import EventHub.Hub.CloseReason
import EventHub.Hub.Heartbeat
import EventHub.Hub.Protocol

/-!
One client's connection: its lifecycle, the event buffer, the queue of control messages that go
ahead of events, and its heartbeat. The visible state combines the lifecycle with the buffer.
-/

namespace EventHub

inductive ConnectionState where
  | connecting
  | active
  | paused
  | draining
  | closed
  deriving DecidableEq

namespace ConnectionState

def text : ConnectionState → String
  | connecting => "connecting"
  | active => "active"
  | paused => "paused"
  | draining => "draining"
  | closed => "closed"

def canBecome : ConnectionState → ConnectionState → Bool
  | connecting, active | connecting, closed => true
  | active, paused | paused, active => true
  | active, draining | paused, draining => true
  | draining, closed => true
  | _, _ => false

def isOpen : ConnectionState → Bool
  | active | paused => true
  | connecting | draining | closed => false

end ConnectionState

inductive Lifecycle where
  | opened
  | draining
  | closed
  deriving DecidableEq

inductive QueueReader where
  | waiting
  | taken
  | gone
  deriving DecidableEq

structure ControlQueue where
  capacity : Nat
  waiting : List Payload := []
  reader : QueueReader := .waiting
  deriving DecidableEq

namespace ControlQueue

def send (queue : ControlQueue) (payload : Payload) : Except HubError ControlQueue :=
  if queue.reader = .gone then .error (.transport "send loop closed")
  else if queue.capacity ≤ queue.waiting.length then .error (.transport "control queue full")
  else .ok { queue with waiting := queue.waiting ++ [payload] }

/-- The reading end can be taken once. -/
def take? (queue : ControlQueue) : Option ControlQueue :=
  if queue.reader = .waiting then some { queue with reader := .taken } else none

def receive? (queue : ControlQueue) : Option (Payload × ControlQueue) :=
  match queue.waiting with
  | [] => none
  | payload :: rest => some (payload, { queue with waiting := rest })

def receiveAll (queue : ControlQueue) : List Payload × ControlQueue :=
  (queue.waiting, { queue with waiting := [] })

/-- What waits in a queue without a reader is lost. -/
def drop (queue : ControlQueue) : ControlQueue :=
  { queue with reader := .gone, waiting := [] }

end ControlQueue

structure Connection where
  id : ConnectionId
  identity : Identity
  protocolVersion : UInt32
  lifecycle : Lifecycle := .opened
  buffer : Buffer
  heartbeat : Heartbeat := Heartbeat.start
  control : ControlQueue
  closeReason : Option CloseReason := none
  cancelled : Bool := false
  /-- A session has claimed the connection. -/
  attached : Bool := false
  /-- Both loops of its session are over. -/
  finished : Bool := false
  deriving DecidableEq

structure ConnectionSample where
  id : ConnectionId
  subject : String
  state : ConnectionState
  depth : Nat
  capacity : Nat
  dropped : Nat
  paused : Bool
  pauseCount : Nat
  resumeCount : Nat
  missed : Nat
  deriving DecidableEq

namespace Connection

def create (config : HubConfig) (id : ConnectionId) (identity : Identity)
    (protocolVersion : UInt32) : Connection where
  id := id
  identity := identity
  protocolVersion := protocolVersion
  buffer := Buffer.ofConfig config.buffer
  control := { capacity := atLeastOne config.controlQueue }

def state (connection : Connection) : ConnectionState :=
  match connection.lifecycle with
  | .opened => if connection.buffer.paused then .paused else .active
  | .draining => .draining
  | .closed => .closed

def isOpen (connection : Connection) : Bool :=
  connection.lifecycle == .opened

/-- Queues an event; a connection that is closing takes none. -/
def enqueue? (connection : Connection) (payload : Payload) : Option (Connection × Enqueued) :=
  if connection.isOpen then
    let (buffer, outcome) := connection.buffer.enqueue payload
    some ({ connection with buffer }, outcome)
  else none

def dequeue (connection : Connection) : Connection × Option Dequeued :=
  let (buffer, outcome) := connection.buffer.dequeue
  ({ connection with buffer }, outcome)

def drain (connection : Connection) (limit : Nat) : Connection × List Dequeued :=
  let (buffer, taken) := Buffer.drain limit connection.buffer
  ({ connection with buffer }, taken)

def clear (connection : Connection) : Connection :=
  { connection with buffer := connection.buffer.clear }

def sendControl (connection : Connection) (message : ServerMessage) :
    Except HubError Connection :=
  (connection.control.send message.toPayload).map fun control => { connection with control }

def recordPong (connection : Connection) (now : Instant) : Connection :=
  { connection with heartbeat := connection.heartbeat.recordPong now }

def markDead (connection : Connection) : Connection :=
  { connection with heartbeat := connection.heartbeat.markDead }

def heartbeatTick (config : HeartbeatConfig) (connection : Connection) (now : Instant) :
    Connection × TickAction :=
  let (heartbeat, action) := Heartbeat.tick config connection.heartbeat now
  ({ connection with heartbeat }, action)

/-- Asks for a close. Only the first request on an open connection starts it and gives the
reason. -/
def beginDraining (connection : Connection) (reason : CloseReason) : Connection × Bool :=
  if connection.isOpen then
    ({ connection with
        lifecycle := .draining
        closeReason := some (connection.closeReason.getD reason)
        cancelled := true }, true)
  else ({ connection with cancelled := true }, false)

def markClosed (connection : Connection) : Connection :=
  { connection with lifecycle := .closed, cancelled := true }

/-- Claims the connection for a session; the flag says whether it was free. -/
def attach (connection : Connection) : Connection × Bool :=
  ({ connection with attached := true }, !connection.attached)

def markFinished (connection : Connection) : Connection :=
  { connection with finished := true }

def settled (connection : Connection) : Bool :=
  !connection.attached || connection.finished

/-- The reason on record, or the client's own leave. -/
def reason (connection : Connection) : CloseReason :=
  connection.closeReason.getD .clientInitiated

def sample (connection : Connection) : ConnectionSample where
  id := connection.id
  subject := connection.identity.subject
  state := connection.state
  depth := connection.buffer.depth
  capacity := connection.buffer.capacity
  dropped := connection.buffer.dropped
  paused := connection.buffer.paused
  pauseCount := connection.buffer.pauseCount
  resumeCount := connection.buffer.resumeCount
  missed := connection.heartbeat.missed

end Connection

end EventHub
