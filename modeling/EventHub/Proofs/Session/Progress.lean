import EventHub.Proofs.Hub.Soundness
import EventHub.Session.Supervise

/-!
What the steps of a session do to the hub, each as a run of the hub's operations, none of which
routes an event.
-/

namespace EventHub

namespace Hub

/-- The hub gets from one state to the other without routing an event. -/
def Proceeds (hub next : Hub) : Prop :=
  ∃ operations : List Operation,
    (∀ operation ∈ operations, operation.isRoute = false) ∧ next = hub.run operations

namespace Proceeds

variable {hub middle next : Hub}

theorem refl (hub : Hub) : Proceeds hub hub :=
  ⟨[], by simp, rfl⟩

theorem trans (first : Proceeds hub middle) (second : Proceeds middle next) :
    Proceeds hub next := by
  obtain ⟨earlier, quietEarlier, rfl⟩ := first
  obtain ⟨later, quietLater, rfl⟩ := second
  refine ⟨earlier ++ later, ?_, (run_append hub earlier later).symm⟩
  intro operation member
  rcases List.mem_append.1 member with member | member
  · exact quietEarlier operation member
  · exact quietLater operation member

theorem apply (hub : Hub) {operation : Operation} (quiet : operation.isRoute = false) :
    Proceeds hub (hub.apply operation) :=
  ⟨[operation], by simpa using quiet, rfl⟩

theorem tend (hub : Hub) (id : ConnectionId) (upkeep : Upkeep) :
    Proceeds hub (hub.modify id upkeep.apply) := by
  have tended : Proceeds hub (hub.apply (.tend id upkeep)) := apply hub rfl
  exact tended

theorem wellFormed (proceeds : Proceeds hub next) (wellFormed : hub.WellFormed) :
    next.WellFormed := by
  obtain ⟨operations, -, rfl⟩ := proceeds
  exact wellFormed_run wellFormed operations

theorem dwindles (proceeds : Proceeds hub next) (wellFormed : hub.WellFormed)
    (id : ConnectionId) : (hub.standing id).Dwindles (next.standing id) := by
  obtain ⟨operations, quiet, rfl⟩ := proceeds
  induction operations generalizing hub with
  | nil => exact .refl _
  | cons operation rest ih =>
      have effect := effect_apply wellFormed operation
      have later := ih effect.wellFormed fun other member =>
        quiet other (List.mem_cons_of_mem operation member)
      refine Standing.Dwindles.trans ?_ later
      rw [effect.standing]
      split
      · exact (hub.standing id).dwindles_apply hub.config id (quiet operation List.mem_cons_self)
      · exact .refl _

theorem reportCrossing (proceeds : Proceeds hub next) (id : ConnectionId)
    (crossing : Option Crossing) : Proceeds hub (next.reportCrossing id crossing) := by
  cases crossing with
  | none => exact proceeds
  | some crossing =>
      have reported : Proceeds next (next.apply (.report (.crossed id crossing))) :=
        apply next rfl
      exact proceeds.trans reported

theorem put_upkeep (wellFormed : hub.WellFormed) {id : ConnectionId} {connection : Connection}
    (found : hub.get? id = some connection) (upkeep : Upkeep) :
    Proceeds hub (hub.put (upkeep.apply connection)) := by
  rw [put_eq_modify wellFormed found upkeep.apply (upkeep.id_apply connection)]
  exact tend hub id upkeep

theorem put_dequeue (wellFormed : hub.WellFormed) {id : ConnectionId} {connection : Connection}
    (found : hub.get? id = some connection) : Proceeds hub (hub.put connection.dequeue.1) := by
  rw [put_eq_modify wellFormed found (fun connection => connection.dequeue.1) rfl]
  have dequeued : Proceeds hub (hub.apply (.dequeue id)) := apply hub rfl
  exact dequeued

theorem put_sendControl (wellFormed : hub.WellFormed) {id : ConnectionId}
    {connection sent : Connection} (found : hub.get? id = some connection)
    {message : ServerMessage} (sends : connection.sendControl message = .ok sent) :
    Proceeds hub (hub.put sent) := by
  have sent_eq : sent = (Upkeep.sendControl message).apply connection := by
    simp [Upkeep.apply, sends, Except.toOption]
  rw [sent_eq]
  exact put_upkeep wellFormed found _

end Proceeds

end Hub

namespace Session

variable {hub next : Hub} {session after : Session} {now : Instant}

theorem takeControl_eq_some {connection taken : Connection} {message : Outgoing}
    (takes : takeControl connection = some (taken, message)) :
    taken = Upkeep.receiveControl.apply connection ∧
      ∃ payload rest, connection.control.waiting = payload :: rest ∧
        message = .control payload ∧ taken.control.waiting = rest := by
  simp only [takeControl, Option.map_eq_some_iff] at takes
  obtain ⟨⟨payload, control⟩, received, takes⟩ := takes
  simp only [Prod.mk.injEq] at takes
  obtain ⟨rfl, rfl⟩ := takes
  refine ⟨by simp [Upkeep.apply, received], ?_⟩
  simp only [ControlQueue.receive?] at received
  split at received
  · cases received
  · rename_i first rest waiting
    cases received
    exact ⟨payload, rest, waiting, rfl, rfl⟩

theorem takeEvent_eq_some {connection taken : Connection} {message : Outgoing}
    {crossing : Option Crossing}
    (takes : takeEvent connection = some (taken, message, crossing)) :
    taken = connection.dequeue.1 ∧
      ∃ payload, message = .event payload ∧
        connection.buffer.queue = payload :: taken.buffer.queue := by
  simp only [takeEvent] at takes
  split at takes
  · rename_i dequeued outcome dequeues
    cases takes
    refine ⟨by rw [dequeues], outcome.payload, rfl, ?_⟩
    simp only [Connection.dequeue, Buffer.dequeue] at dequeues
    split at dequeues
    · cases dequeues
    · rename_i payload rest waiting
      cases dequeues
      rw [waiting]
      simp only [Buffer.checkLow]
      split <;> rfl
  · cases takes

theorem proceeds_endSending (hub : Hub) (session : Session) :
    hub.Proceeds (endSending hub session).1 := by
  have dropped : hub.Proceeds (hub.apply (.tend session.id .dropReader)) := .apply hub rfl
  exact dropped

theorem proceeds_beginDraining (hub : Hub) (id : ConnectionId) (reason : CloseReason) :
    hub.Proceeds (hub.beginDraining id reason).1 := by
  have drained : hub.Proceeds (hub.apply (.beginDraining id reason)) := .apply hub rfl
  exact drained

theorem proceeds_clear (hub : Hub) (id : ConnectionId) :
    hub.Proceeds (hub.modify id Connection.clear) := by
  have cleared : hub.Proceeds (hub.apply (.clear id)) := .apply hub rfl
  exact cleared

theorem known_of_start {id : ConnectionId} {sink : Sink}
    (starts : start hub id sink = some (next, session)) : (hub.get? id).isSome = true := by
  obtain ⟨connection, found, -⟩ := Option.bind_eq_some_iff.1 starts
  exact Option.isSome_iff_exists.2 ⟨connection, found⟩

theorem proceeds_start {id : ConnectionId} {sink : Sink} (wellFormed : hub.WellFormed)
    (starts : start hub id sink = some (next, session)) :
    hub.Proceeds next ∧ session = { id, sink } := by
  simp only [start, Option.bind_eq_bind, Option.bind_eq_some_iff] at starts
  obtain ⟨connection, found, control, taken, starts⟩ := starts
  cases starts
  refine ⟨?_, rfl⟩
  let welcome := Upkeep.sendControl (.welcome id connection.protocolVersion)
  let greet := welcome.apply ∘ Upkeep.attach.apply ∘ Upkeep.takeReader.apply
  have greeted : hub.Proceeds (hub.put (greet connection)) := by
    rw [Hub.put_eq_modify wellFormed found greet ((welcome.id_apply _).trans
      ((Upkeep.attach.id_apply _).trans (Upkeep.takeReader.id_apply _)))]
    have tended := ((Hub.Proceeds.tend hub id .takeReader).trans (.tend _ id .attach)).trans
      (.tend _ id welcome)
    rw [Hub.modify_modify, Hub.modify_modify] at tended
    exact tended
  have greet_eq : greet connection =
      welcome.apply ({ connection with control }.attach).1 := by
    simp [greet, Upkeep.apply, taken]
  rw [greet_eq] at greeted
  simp only [welcome, Upkeep.apply] at greeted
  split
  · rename_i welcomed sent
    rw [sent] at greeted
    exact greeted
  · rename_i cause refused
    rw [refused] at greeted
    exact greeted

theorem proceeds_reply (wellFormed : hub.WellFormed) (id : ConnectionId)
    (message : ServerMessage) : hub.Proceeds (reply hub id message) := by
  rw [reply]
  split
  · rename_i connection found
    split
    · rename_i sent sends
      exact .put_sendControl wellFormed found sends
    · exact .refl hub
  · exact .refl hub

theorem proceeds_handleText (wellFormed : hub.WellFormed) (id : ConnectionId) (text : String) :
    hub.Proceeds (handleText now hub id text) := by
  simp only [handleText]
  cases ClientCommand.parse text with
  | error cause => exact .refl hub
  | ok command =>
      cases command with
      | pong => exact .tend hub id (.pong now)
      | subscribe events clusters =>
          have subscribed : hub.Proceeds (hub.apply (.subscribe id events clusters)) :=
            .apply hub rfl
          exact subscribed.trans (proceeds_reply (subscribed.wellFormed wellFormed) id _)
      | unsubscribe events =>
          have unsubscribed : hub.Proceeds (hub.apply (.unsubscribe id events)) :=
            .apply hub rfl
          exact unsubscribed.trans (proceeds_reply (unsubscribed.wellFormed wellFormed) id _)

theorem proceeds_receiveStep (wellFormed : hub.WellFormed)
    (steps : session.receiveStep now hub = some (next, after)) :
    hub.Proceeds next ∧ after.id = session.id ∧ after.send = session.send ∧
      after.sink = session.sink := by
  simp only [receiveStep] at steps
  split at steps
  · split at steps
    · cases steps
      exact ⟨.refl hub, rfl, rfl, rfl⟩
    · split at steps
      · cases steps
      · cases steps
        exact ⟨proceeds_handleText wellFormed _ _, rfl, rfl, rfl⟩
      · cases steps
        exact ⟨.refl hub, rfl, rfl, rfl⟩
      · cases steps
        exact ⟨.refl hub, rfl, rfl, rfl⟩
      · cases steps
        exact ⟨.refl hub, rfl, rfl, rfl⟩
      · cases steps
        exact ⟨.refl hub, rfl, rfl, rfl⟩
  · cases steps

theorem proceeds_finish (hub : Hub) (session : Session) :
    hub.Proceeds (finish hub session).1 := by
  have finished : hub.Proceeds (hub.modify session.id Connection.markFinished) :=
    .tend hub session.id .finish
  have closed (closing : Hub) (reason : CloseReason) :
      closing.Proceeds (closing.apply (.close session.id reason)) := .apply closing rfl
  exact finished.trans (closed _ _)

theorem proceeds_expire (hub : Hub) (session : Session) :
    hub.Proceeds (expire hub session).1 := by
  rw [expire]
  split
  · exact proceeds_finish hub session
  · exact (proceeds_endSending hub session).trans (proceeds_finish _ _)

theorem proceeds_beginEnding (now : Instant) (hub : Hub) (session : Session) (exit : ReceiveExit) :
    hub.Proceeds (beginEnding now hub session exit).1 := by
  simp only [beginEnding]
  split
  · exact .refl hub
  · exact proceeds_beginDraining hub session.id .clientInitiated

theorem proceeds_superviseStep
    (steps : session.superviseStep now hub = some (next, after)) : hub.Proceeds next := by
  simp only [superviseStep] at steps
  split at steps
  · rename_i exit _ _
    split at steps
    · have expired := (proceeds_beginEnding now hub session exit).trans
        (proceeds_expire _ (beginEnding now hub session exit).2)
      rw [Option.some.inj steps] at expired
      exact expired
    · cases steps
      exact proceeds_beginEnding now hub session exit
  · cases steps
  · split at steps
    · have expired := proceeds_expire hub session
      rw [Option.some.inj steps] at expired
      exact expired
    · cases steps
  · cases steps

theorem session_expire (hub : Hub) (session : Session) :
    (expire hub session).2.id = session.id ∧ (expire hub session).2.sink = session.sink ∧
      (expire hub session).2.send = .over := by
  rw [expire]
  split
  · rename_i stopped
    exact ⟨rfl, rfl, stopped⟩
  · exact ⟨rfl, rfl, rfl⟩

/-- All that the supervisor ever does to the send loop is to stop it. -/
theorem session_superviseStep (steps : session.superviseStep now hub = some (next, after)) :
    after.id = session.id ∧ after.sink = session.sink ∧
      (after.send = session.send ∨ after.send = .over) := by
  simp only [superviseStep] at steps
  split at steps
  · rename_i exit _ _
    split at steps
    · obtain ⟨id, sink, stopped⟩ := session_expire (beginEnding now hub session exit).1
        (beginEnding now hub session exit).2
      rw [Option.some.inj steps] at id sink stopped
      exact ⟨id, sink, Or.inr stopped⟩
    · cases steps
      exact ⟨rfl, rfl, Or.inl rfl⟩
  · cases steps
  · split at steps
    · obtain ⟨id, sink, stopped⟩ := session_expire hub session
      rw [Option.some.inj steps] at id sink stopped
      exact ⟨id, sink, Or.inr stopped⟩
    · cases steps
  · cases steps

end Session

end EventHub
