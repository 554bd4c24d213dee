import EventHub.Proofs.Hub.Closing
import EventHub.Proofs.Session.Output

/-!
What a session asks of the hub. By itself it only does chores on its own connection: it takes from
the queues, keeps marks, and asks for the close. Beyond that it carries out the commands of its
client, and closes the connection once, at its end.
-/

namespace EventHub

/-- What a session does to its own connection without being told by its client. -/
def Hub.Operation.isChore (id : ConnectionId) : Hub.Operation → Bool
  | .dequeue other | .clear other | .tend other _ | .beginDraining other _ => other = id
  | .report (.crossed other _) => other = id
  | _ => false

namespace Hub

theorem Operation.isQuiet_of_isChore {id : ConnectionId} {operation : Operation}
    (chore : operation.isChore id = true) : operation.isQuiet = true := by
  cases operation with
  | report entry =>
      cases entry with
      | crossed other crossing => rfl
      | _ => cases chore
  | dequeue _ | clear _ | tend _ _ | beginDraining _ _ => rfl
  | _ => cases chore

/-- From one hub to the other the session of `id` does chores, with these close calls. -/
inductive Chores (id : ConnectionId) : Hub → List CloseCall → Hub → Prop where
  | done (hub : Hub) : Chores id hub [] hub
  | step {hub next : Hub} {operation : Operation} {calls : List CloseCall}
      (chore : operation.isChore id = true) (later : Chores id (hub.apply operation) calls next) :
      Chores id hub (hub.calls operation ++ calls) next

namespace Chores

variable {hub middle next : Hub} {id : ConnectionId} {calls more : List CloseCall}

theorem trans (first : Chores id hub calls middle) (second : Chores id middle more next) :
    Chores id hub (calls ++ more) next := by
  induction first with
  | done hub => exact second
  | step chore _ ih =>
      rw [List.append_assoc]
      exact .step chore (ih second)

theorem one (operation : Operation) (chore : operation.isChore id = true) :
    Chores id hub (hub.calls operation) (hub.apply operation) := by
  have once : Chores id hub _ (hub.apply operation) := .step chore (.done _)
  rwa [List.append_nil] at once

theorem tend (hub : Hub) (id : ConnectionId) (upkeep : Upkeep) :
    Chores id hub [] (hub.modify id upkeep.apply) :=
  one (.tend id upkeep) (decide_eq_true rfl)

theorem clear (hub : Hub) (id : ConnectionId) :
    Chores id hub [] (hub.modify id Connection.clear) :=
  one (.clear id) (decide_eq_true rfl)

theorem beginDraining (hub : Hub) (id : ConnectionId) (reason : CloseReason) :
    Chores id hub (hub.drainCalls id reason) (hub.beginDraining id reason).1 :=
  one (.beginDraining id reason) (decide_eq_true rfl)

theorem put_upkeep (wellFormed : hub.WellFormed) {connection : Connection}
    (found : hub.get? id = some connection) (upkeep : Upkeep) :
    Chores id hub [] (hub.put (upkeep.apply connection)) := by
  rw [put_eq_modify wellFormed found upkeep.apply (upkeep.id_apply connection)]
  exact tend hub id upkeep

theorem put_dequeue (wellFormed : hub.WellFormed) {connection : Connection}
    (found : hub.get? id = some connection) : Chores id hub [] (hub.put connection.dequeue.1) := by
  rw [put_eq_modify wellFormed found (fun connection => connection.dequeue.1) rfl]
  exact one (.dequeue id) (decide_eq_true rfl)

theorem reportCrossing (chores : Chores id hub [] next) (crossing : Option Crossing) :
    Chores id hub [] (next.reportCrossing id crossing) := by
  cases crossing with
  | none => exact chores
  | some crossing =>
      exact chores.trans (one (.report (.crossed id crossing)) (decide_eq_true rfl))

theorem wellFormed (chores : Chores id hub calls next) (wellFormed : hub.WellFormed) :
    next.WellFormed := by
  induction chores with
  | done hub => exact wellFormed
  | step _ _ ih => exact ih (effect_apply wellFormed _).wellFormed

theorem quiet (chores : Chores id hub calls next) (wellFormed : hub.WellFormed) :
    Quiet hub next := by
  induction chores with
  | done hub => exact .refl wellFormed
  | step chore _ ih =>
      have first := quiet_apply wellFormed (Operation.isQuiet_of_isChore chore)
      exact first.trans (ih first.wellFormed)

end Chores

/-- What a command asks of the hub, but for the connection itself. -/
def obey (hub : Hub) (id : ConnectionId) : Option ClientCommand → Hub
  | some (.subscribe events clusters) => (hub.subscribe id events clusters).1
  | some (.unsubscribe events) => (hub.unsubscribe id events).1
  | some .pong | none => hub

theorem wellFormed_obey {hub : Hub} (wellFormed : hub.WellFormed) (id : ConnectionId)
    (command : Option ClientCommand) : (hub.obey id command).WellFormed := by
  cases command with
  | none => exact wellFormed
  | some command =>
      cases command with
      | pong => exact wellFormed
      | subscribe events clusters =>
          exact (effect_subscribe wellFormed id events clusters).wellFormed
      | unsubscribe events => exact (effect_unsubscribe wellFormed id events).wellFormed

end Hub

namespace Session

/-! The close calls of each loop; the receive loop makes none. -/

def sendCalls (hub : Hub) (session : Session) : List CloseCall :=
  match session.send with
  | .writing message =>
      match session.sink.write (.text message.payload) with
      | .failed => hub.drainCalls session.id .clientInitiated
      | .done _ | .full => []
  | .delivering | .resting _ | .flushingControl _ | .flushingEvents _ | .flushWriting _ _
  | .farewell _ | .over => []

def endingCalls (hub : Hub) (session : Session) (exit : ReceiveExit) : List CloseCall :=
  if exit = .cancelled then [] else hub.drainCalls session.id .clientInitiated

def finishCalls (hub : Hub) (session : Session) : List CloseCall :=
  (hub.modify session.id Connection.markFinished).closeCalls session.id
    (((hub.get? session.id).map Connection.reason).getD .clientInitiated)

def expireCalls (hub : Hub) (session : Session) : List CloseCall :=
  if session.send = .over then finishCalls hub session
  else finishCalls (endSending hub session).1 (endSending hub session).2

def superviseCalls (now : Instant) (hub : Hub) (session : Session) : List CloseCall :=
  match session.supervise, session.receive with
  | .receiving, .over exit =>
      let (draining, ending) := beginEnding now hub session exit
      endingCalls hub session exit ++
        if sendGrace hub.config = 0 then expireCalls draining ending else []
  | .receiving, .reading => []
  | .sending deadline, _ =>
      if session.send = .over || deadline ≤ now then expireCalls hub session else []
  | .over _, _ => []

/-- The command that the receive loop carries out next. -/
def command? (session : Session) (hub : Hub) : Option ClientCommand :=
  match session.receive, hub.get? session.id with
  | .reading, some connection =>
      if connection.cancelled then none
      else
        match session.inbound with
        | .text content :: _ => (ClientCommand.parse content).toOption
        | _ => none
  | _, _ => none

variable {hub next : Hub} {session after : Session} {connection taken : Connection}
  {message : Outgoing} {now : Instant} {id : ConnectionId}

open Hub (Chores)

theorem chores_endSending (hub : Hub) (session : Session) :
    Chores session.id hub [] (endSending hub session).1 :=
  .tend hub session.id .dropReader

section Sending

variable (wellFormed : hub.WellFormed)
include wellFormed

theorem chores_takeControl (found : hub.get? id = some connection)
    (takes : takeControl connection = some (taken, message)) :
    Chores id hub [] (hub.put taken) := by
  obtain ⟨rfl, -⟩ := takeControl_eq_some takes
  exact .put_upkeep wellFormed found .receiveControl

theorem chores_takeEvent (found : hub.get? id = some connection) {crossing : Option Crossing}
    (takes : takeEvent connection = some (taken, message, crossing)) :
    Chores id hub [] (hub.put taken) := by
  obtain ⟨rfl, -⟩ := takeEvent_eq_some takes
  exact .put_dequeue wellFormed found

theorem chores_takeNext (found : hub.get? id = some connection) {crossing : Option Crossing}
    (takes : takeNext connection = some (taken, message, crossing)) :
    Chores id hub [] (hub.put taken) := by
  rw [takeNext] at takes
  split at takes
  · rename_i control
    cases takes
    exact chores_takeControl wellFormed found control
  · exact chores_takeEvent wellFormed found takes

theorem chores_deliverStep (now : Instant) (found : hub.get? session.id = some connection) :
    Chores session.id hub [] (deliverStep now hub session connection).1 := by
  rw [deliverStep]
  split
  · exact .done hub
  · split
    · rename_i takes
      exact (chores_takeNext wellFormed found takes).reportCrossing _
    · exact .done hub

theorem chores_flushControlStep (deadline : Instant)
    (found : hub.get? session.id = some connection) :
    Chores session.id hub [] (flushControlStep deadline hub session connection).1 := by
  rw [flushControlStep]
  split
  · rename_i takes
    exact chores_takeControl wellFormed found takes
  · exact .done hub

theorem chores_flushEventStep (now deadline : Instant)
    (found : hub.get? session.id = some connection) :
    Chores session.id hub [] (flushEventStep now deadline hub session connection).1 := by
  rw [flushEventStep]
  split
  · rename_i takes
    exact chores_takeEvent wellFormed found takes
  · exact .done hub

end Sending

theorem chores_restStep {wake : Instant}
    (steps : restStep now wake hub session connection = some (next, after)) :
    Chores session.id hub [] next := by
  rw [restStep] at steps
  split at steps
  · cases steps
    exact .done hub
  · split at steps
    · cases steps
      exact .done hub
    · cases steps

theorem chores_writeStep (holds : session.send = .writing message)
    (steps : writeStep hub session message = some (next, after)) :
    Chores session.id hub (session.sendCalls hub) next := by
  simp only [sendCalls, holds]
  rw [writeStep] at steps
  cases written : session.sink.write (.text message.payload) with
  | done sink =>
      rw [written] at steps
      cases steps
      exact .done hub
  | failed =>
      rw [written] at steps
      cases steps
      have drained := Chores.beginDraining hub session.id .clientInitiated
      have stopped := drained.trans (chores_endSending _ session)
      rw [List.append_nil] at stopped
      exact stopped
  | full =>
      rw [written] at steps
      cases steps

theorem chores_flushWriteStep {deadline : Instant}
    (steps : flushWriteStep now deadline hub session message = some (next, after)) :
    Chores session.id hub [] next := by
  rw [flushWriteStep] at steps
  split at steps
  · cases steps
    exact .done hub
  · cases steps
    exact chores_endSending hub session
  · split at steps
    · cases steps
      exact .clear hub session.id
    · cases steps

theorem chores_farewellStep {deadline : Instant}
    (steps : farewellStep now deadline hub session connection = some (next, after)) :
    Chores session.id hub [] next := by
  rw [farewellStep] at steps
  split at steps
  · rename_i sink _
    cases steps
    exact chores_endSending hub { session with sink := sink.finish }
  · cases steps
    exact chores_endSending hub session
  · split at steps
    · cases steps
      exact chores_endSending hub session
    · cases steps

theorem chores_sendStep (wellFormed : hub.WellFormed)
    (steps : session.sendStep now hub = some (next, after)) :
    Chores session.id hub (session.sendCalls hub) next := by
  have quiet (chores : Chores session.id hub [] next) (silent : session.sendCalls hub = []) :
      Chores session.id hub (session.sendCalls hub) next := by
    rw [silent]
    exact chores
  rw [sendStep] at steps
  split at steps
  · cases steps
  · rename_i connection found
    split at steps
    · rename_i phase
      have chores := chores_deliverStep wellFormed now found
      rw [Option.some.inj steps] at chores
      exact quiet chores (by rw [sendCalls, phase])
    · rename_i phase
      exact quiet (chores_restStep steps) (by rw [sendCalls, phase])
    · rename_i message phase
      exact chores_writeStep phase steps
    · rename_i deadline phase
      have chores := chores_flushControlStep wellFormed deadline found
      rw [Option.some.inj steps] at chores
      exact quiet chores (by rw [sendCalls, phase])
    · rename_i deadline phase
      have chores := chores_flushEventStep wellFormed now deadline found
      rw [Option.some.inj steps] at chores
      exact quiet chores (by rw [sendCalls, phase])
    · rename_i phase
      exact quiet (chores_flushWriteStep steps) (by rw [sendCalls, phase])
    · rename_i phase
      exact quiet (chores_farewellStep steps) (by rw [sendCalls, phase])
    · cases steps

/-- Claims the connection and queues the welcome. -/
theorem chores_start {sink : Sink} (wellFormed : hub.WellFormed)
    (starts : start hub id sink = some (next, session)) : Chores id hub [] next := by
  simp only [start, Option.bind_eq_bind, Option.bind_eq_some_iff] at starts
  obtain ⟨connection, found, control, taken, starts⟩ := starts
  cases starts
  let welcome := Upkeep.sendControl (.welcome id connection.protocolVersion)
  let greet := welcome.apply ∘ Upkeep.attach.apply ∘ Upkeep.takeReader.apply
  have greeted : Chores id hub [] (hub.put (greet connection)) := by
    rw [Hub.put_eq_modify wellFormed found greet ((welcome.id_apply _).trans
      ((Upkeep.attach.id_apply _).trans (Upkeep.takeReader.id_apply _)))]
    have tended := ((Chores.tend hub id .takeReader).trans (.tend _ id .attach)).trans
      (.tend _ id welcome)
    rw [Hub.modify_modify, Hub.modify_modify] at tended
    exact tended
  have greet_eq : greet connection =
      welcome.apply ({ connection with control }.attach).1 := by
    simp [greet, Upkeep.apply, taken]
  rw [greet_eq, Upkeep.apply_sendControl] at greeted
  exact greeted

/-! Receiving. -/

theorem chores_reply (wellFormed : hub.WellFormed) (id : ConnectionId) (message : ServerMessage) :
    Chores id hub [] (reply hub id message) := by
  rw [reply]
  split
  · rename_i connection found
    have sent := Chores.put_upkeep wellFormed found (.sendControl message)
    rw [Upkeep.apply_sendControl] at sent
    split
    · rename_i sends
      rw [sends] at sent
      exact sent
    · exact .done hub
  · exact .done hub

theorem chores_handleText (wellFormed : hub.WellFormed) (id : ConnectionId) (text : String) :
    Chores id (hub.obey id (ClientCommand.parse text).toOption) []
      (handleText now hub id text) := by
  simp only [handleText]
  cases ClientCommand.parse text with
  | error cause => exact .done hub
  | ok command =>
      cases command with
      | pong => exact .tend hub id (.pong now)
      | subscribe events clusters =>
          exact chores_reply (Hub.effect_subscribe wellFormed id events clusters).wellFormed id _
      | unsubscribe events =>
          exact chores_reply (Hub.effect_unsubscribe wellFormed id events).wellFormed id _

theorem chores_receiveStep (wellFormed : hub.WellFormed)
    (steps : session.receiveStep now hub = some (next, after)) :
    Chores session.id (hub.obey session.id (session.command? hub)) [] next := by
  rw [receiveStep] at steps
  split at steps
  · rename_i connection reading found
    simp only [command?, reading, found]
    split at steps
    · rename_i cancelled
      cases steps
      rw [if_pos cancelled]
      exact .done hub
    · rename_i uncancelled
      rw [if_neg uncancelled]
      split at steps
      · cases steps
      · rename_i inbound
        cases steps
        rw [inbound]
        exact chores_handleText wellFormed session.id _
      all_goals
        rename_i inbound
        cases steps
        rw [inbound]
        exact .done hub
  · cases steps

/-- A command that is next is carried out by the next step. -/
theorem receiveStep_of_command {command : ClientCommand} (now : Instant)
    (commanded : session.command? hub = some command) :
    (session.receiveStep now hub).isSome = true := by
  rw [command?] at commanded
  split at commanded
  · rename_i connection reading found
    split at commanded
    · cases commanded
    · rename_i uncancelled
      split at commanded
      · rename_i content rest inbound
        simp only [receiveStep, reading, found, uncancelled, inbound]
        rfl
      · cases commanded
  · cases commanded

/-! The end. -/

/-- What a step of the supervisor asks of the hub. It ends the session with a close, of a connection
that is marked finished by then. -/
inductive Leaves (hub : Hub) (session : Session) (calls : List CloseCall) (next : Hub)
    (after : Session) : Prop where
  | waits (chores : Chores session.id hub calls next) (goesOn : after.ended? = none)
  | ends {middle : Hub} {earlier : List CloseCall} {connection : Connection}
      {reason : CloseReason} (chores : Chores session.id hub earlier middle)
      (found : middle.get? session.id = some connection) (finished : connection.finished = true)
      (closes : (middle.close session.id reason).1 = next)
      (made : calls = earlier ++ middle.closeCalls session.id reason)
      (told : after.ended? = some reason)

theorem leaves_finish (found : hub.get? session.id = some connection) :
    Leaves hub session (session.finishCalls hub) (finish hub session).1 (finish hub session).2 := by
  have marked := Chores.tend hub session.id .finish
  have stored : (hub.modify session.id Connection.markFinished).get? session.id =
      some connection.markFinished := by
    have updated := Table.get?_update hub.connections session.id Connection.markFinished session.id
    have before : hub.connections.get? session.id = some connection := found
    rw [if_pos rfl, before] at updated
    exact updated
  exact .ends marked stored rfl rfl rfl rfl

theorem Leaves.from {middle : Hub} {begun : Session} {earlier calls : List CloseCall}
    (chores : Chores session.id hub earlier middle) (same : begun.id = session.id)
    (leaves : Leaves middle begun calls next after) :
    Leaves hub session (earlier ++ calls) next after := by
  cases leaves with
  | waits later goesOn =>
      rw [same] at later
      exact .waits (chores.trans later) goesOn
  | ends later found finished closes made told =>
      rw [same] at later found closes made
      exact .ends (chores.trans later) found finished closes
        (by rw [made, List.append_assoc]) told

theorem leaves_expire (wellFormed : hub.WellFormed)
    (found : hub.get? session.id = some connection) :
    Leaves hub session (session.expireCalls hub) (expire hub session).1 (expire hub session).2 := by
  rw [expire, expireCalls]
  split
  · exact leaves_finish found
  · have stopped := (touches_endSending wellFormed found).own
    have finishes : Leaves (endSending hub session).1 (endSending hub session).2 _ _ _ :=
      leaves_finish stopped
    have same : (endSending hub session).2.id = session.id := rfl
    have leaves := Leaves.from (chores_endSending hub session) same finishes
    exact leaves

theorem chores_beginEnding (now : Instant) (hub : Hub) (session : Session) (exit : ReceiveExit) :
    Chores session.id hub (session.endingCalls hub exit) (beginEnding now hub session exit).1 := by
  simp only [beginEnding, endingCalls]
  split
  · exact .done hub
  · exact .beginDraining hub session.id .clientInitiated

theorem leaves_superviseStep (wellFormed : hub.WellFormed)
    (found : hub.get? session.id = some connection)
    (steps : session.superviseStep now hub = some (next, after)) :
    Leaves hub session (session.superviseCalls now hub) next after := by
  simp only [superviseStep] at steps
  split at steps
  · rename_i exit receiving left
    have begins := chores_beginEnding now hub session exit
    have ending := (moves_beginEnding now wellFormed found exit).1
    simp only [superviseCalls, receiving, left]
    split at steps
    · rename_i impatient
      have isEnding : (beginEnding now hub session exit).1.get?
          (beginEnding now hub session exit).2.id = some _ := ending.own
      have expires := leaves_expire ending.wellFormed isEnding
      rw [Option.some.inj steps] at expires
      rw [if_pos impatient]
      have same : (beginEnding now hub session exit).2.id = session.id := rfl
      exact .from begins same expires
    · rename_i patient
      cases steps
      rw [if_neg patient, List.append_nil]
      exact .waits begins rfl
  · cases steps
  · rename_i deadline sending
    split at steps
    · rename_i due
      have expires := leaves_expire wellFormed found
      rw [Option.some.inj steps] at expires
      simp only [superviseCalls, sending, due, if_true]
      exact expires
    · cases steps
  · cases steps

end Session

end EventHub
