import EventHub.Proofs.Live.Delivery
import EventHub.Proofs.Session.Moves

/-!
What an action makes of one client that has a session. An event that is routed to the client goes
into its buffer. Any other action is a step of the client's own session, or something that others
do to its connection and that keeps the queues.
-/

namespace EventHub

namespace Standing

/-- A routed event would be taken. -/
def accepts (event : Event) (standing : Standing) : Bool :=
  standing.registered && standing.isOpen && standing.holding.wants event

theorem accepts_iff {standing : Standing} {event : Event} :
    standing.accepts event = true ↔ standing.registered = true ∧ standing.isOpen = true ∧
      standing.holding.wants event = true := by
  simp [accepts, and_assoc]

end Standing

namespace LiveHub

/-- The queues of a connection are left to its session. -/
def Action.spares (id : ConnectionId) : Action → Bool
  | .hub operation => operation.spares id
  | _ => true

/-- What an action puts into the buffer of a connection. -/
def buffered? (live : LiveHub) (id : ConnectionId) (action : Action) : Option Payload :=
  (live.routing? action).bind fun routing =>
    if (live.hub.standing id).accepts routing.event then some routing.event.toPayload else none

/-- The events that a run puts into the buffer of a connection. -/
def bufferedIn (id : ConnectionId) : LiveHub → List Action → List Payload
  | _, [] => []
  | live, action :: rest =>
      (live.buffered? id action).toList ++ bufferedIn id (live.act action) rest

def client? (live : LiveHub) (id : ConnectionId) : Option Client :=
  (live.hub.get? id).bind fun connection =>
    (live.sessions.get? id).map fun session => { connection, session }

/-- The client that a new session starts with. -/
def opened (id : ConnectionId) (connection : Connection) (sink : Sink) : Client where
  connection := (Upkeep.sendControl (.welcome id connection.protocolVersion)).apply
    { connection with
      control := { connection.control with reader := .taken }, attached := true }
  session := { id, sink }

/-- Every session belongs to a connection. -/
structure Staffed (live : LiveHub) : Prop where
  wellFormed : live.hub.WellFormed
  named : ∀ id session, live.sessions.get? id = some session → session.id = id
  known : ∀ id session, live.sessions.get? id = some session → (live.hub.get? id).isSome = true

/-- The client `id` has this connection and this session, which has claimed the control queue. -/
structure Serves (live : LiveHub) (id : ConnectionId) (client : Client) : Prop where
  staffed : live.Staffed
  connection : live.hub.get? id = some client.connection
  session : live.sessions.get? id = some client.session
  claimed : client.connection.control.reader ≠ .waiting

/-- What an action that puts nothing into the buffer makes of a client. Only the limits of its
sink are changed from outside. -/
def Turn (live : LiveHub) (id : ConnectionId) (action : Action) (client last : Client) : Prop :=
  client.Turns live.clock live.hub.config last ∨
    ∃ failAfter stallAfter, action = .limitSink id failAfter stallAfter ∧
      last = client.withSink { client.session.sink with failAfter, stallAfter }

variable {live next : LiveHub} {id : ConnectionId} {client last : Client} {action : Action}

theorem staffed_idle (config : HubConfig) : (idle config).Staffed where
  wellFormed := Hub.wellFormed_ofConfig config
  named := fun _ _ absent => nomatch absent
  known := fun _ _ absent => nomatch absent

theorem Staffed.act (staffed : live.Staffed) (action : Action) : (live.act action).Staffed := by
  obtain ⟨operations, reached⟩ := hub_act staffed.wellFormed action
  have wellFormed : (live.act action).hub.WellFormed := by
    rw [reached]
    exact Hub.wellFormed_run staffed.wellFormed operations
  have stays {id : ConnectionId} (known : (live.hub.get? id).isSome = true) :
      ((live.act action).hub.get? id).isSome = true := by
    rw [reached]
    exact Hub.known_run staffed.wellFormed operations known
  cases routed : live.routing? action with
  | some routing =>
      obtain ⟨-, -, sessions⟩ := act_of_routing routed
      refine ⟨wellFormed, ?_, ?_⟩
      · rw [sessions]
        exact staffed.named
      · rw [sessions]
        exact fun id session found => stays (staffed.known id session found)
  | none =>
      have named_known (id : ConnectionId) (session : Session)
          (found : (live.act action).sessions.get? id = some session) :
          session.id = id ∧ (live.hub.get? id).isSome = true := by
        have step : SessionStep id live (live.act action) :=
          sessionStep_act staffed.wellFormed routed
        cases step with
        | unchanged same =>
            rw [same] at found
            exact ⟨staffed.named id session found, staffed.known id session found⟩
        | started sink fresh known starts =>
            cases starts.symm.trans found
            exact ⟨rfl, known⟩
        | passed before after was becomes passes =>
            cases becomes.symm.trans found
            exact ⟨passes.id.trans (staffed.named id before was), staffed.known id before was⟩
      exact ⟨wellFormed, fun id session found => (named_known id session found).1,
        fun id session found => stays (named_known id session found).2⟩

theorem Staffed.run (staffed : live.Staffed) (actions : List Action) :
    (live.run actions).Staffed := by
  induction actions generalizing live with
  | nil => exact staffed
  | cons action rest ih => exact ih (staffed.act action)

theorem regular_run_idle (config : HubConfig) (actions : List Action) {connection : Connection}
    (found : ((idle config).run actions).hub.get? id = some connection) :
    connection.Regular := by
  have wellFormed := (sound_idle config).wellFormed
  obtain ⟨operations, reached⟩ := hub_run wellFormed actions
  have unknown : ((idle config).hub.standing id).Regular := fun _ absent => nomatch absent
  have regular := Hub.regular_run wellFormed unknown operations
  rw [← reached] at regular
  exact regular connection found

theorem client?_eq_some {connection : Connection} {session : Session}
    (found : live.hub.get? id = some connection) (served : live.sessions.get? id = some session) :
    live.client? id = some ⟨connection, session⟩ := by
  rw [client?, found, served]
  rfl

theorem client?_eq_some_iff : live.client? id = some client ↔
    live.hub.get? id = some client.connection ∧ live.sessions.get? id = some client.session := by
  constructor
  · intro found
    obtain ⟨connection, present, served⟩ := Option.bind_eq_some_iff.1 found
    obtain ⟨session, serves, rfl⟩ := Option.map_eq_some_iff.1 served
    exact ⟨present, serves⟩
  · rintro ⟨found, served⟩
    exact client?_eq_some found served

namespace Serves

theorem named (serves : live.Serves id client) : client.session.id = id :=
  serves.staffed.named id client.session serves.session

theorem of_same (serves : live.Serves id client) (staffed : next.Staffed)
    (standing : next.hub.standing id = live.hub.standing id)
    (sessions : next.sessions.get? id = live.sessions.get? id) : next.Serves id client where
  staffed := staffed
  connection := (congrArg Standing.connection standing).trans serves.connection
  session := sessions.trans serves.session
  claimed := serves.claimed

theorem client?_eq (serves : live.Serves id client) : live.client? id = some client := by
  rw [client?, serves.connection, serves.session]
  rfl

end Serves

/-! Closes that others begin keep a connection. -/

theorem keeps_beginClose? (wellFormed : live.hub.WellFormed) {key : ConnectionId}
    {reason : CloseReason} (begun : live.beginClose? key reason = some next) (id : ConnectionId) :
    (live.hub.standing id).Keeps (next.hub.standing id) := by
  obtain ⟨hub, closing, rfl⟩ := Option.map_eq_some_iff.1 begun
  have keeps := Hub.keeps_apply wellFormed id (.beginClose key reason) rfl rfl
  simpa [Hub.apply, closing] using keeps

theorem keeps_beginCloses (live : LiveHub) (wellFormed : live.hub.WellFormed) (reason : CloseReason)
    (ids : List ConnectionId) (id : ConnectionId) :
    (live.hub.standing id).Keeps ((live.beginCloses reason ids).hub.standing id) := by
  induction ids generalizing live with
  | nil => exact .of_connection_eq rfl
  | cons key rest ih =>
      rw [beginCloses, List.foldl_cons]
      cases begun : live.beginClose? key reason with
      | none => exact ih live wellFormed
      | some next =>
          have proceeds := (beginClose?_eq_some begun).1
          exact (keeps_beginClose? wellFormed begun id).trans
            (ih next (proceeds.wellFormed wellFormed))

theorem keeps_finishStep (wellFormed : live.hub.WellFormed) {key : ConnectionId}
    (steps : live.finishStep key = some next) (id : ConnectionId) :
    (live.hub.standing id).Keeps (next.hub.standing id) := by
  obtain ⟨closing, -, -, rfl⟩ := closing_of_finishStep steps
  exact Hub.keeps_apply wellFormed id (.finishClose key closing.reason) rfl rfl

theorem keeps_monitorStep (wellFormed : live.hub.WellFormed)
    (steps : live.monitorStep = some next) (id : ConnectionId) :
    (live.hub.standing id).Keeps (next.hub.standing id) := by
  cases monitorTurn steps with
  | passes monitor phase becomes =>
      subst becomes
      have surveyed := Hub.effect_survey wellFormed live.wallClock live.stamp
      have visited := Hub.keeps_apply wellFormed id (.survey live.wallClock live.stamp) rfl rfl
      refine Standing.Keeps.trans ?_
        (keeps_beginCloses _ surveyed.wellFormed .heartbeatTimeout _ id)
      exact visited
  | rests phase becomes =>
      subst becomes
      exact .of_connection_eq rfl

/-! Starting a session. -/

theorem start_eq_some {hub after : Hub} {session : Session} {sink : Sink}
    (wellFormed : hub.WellFormed) (starts : Session.start hub id sink = some (after, session)) :
    ∃ connection, hub.get? id = some connection ∧ connection.control.reader = .waiting ∧
      hub.Touches after id (opened id connection sink).connection ∧
      session = (opened id connection sink).session := by
  simp only [Session.start, Option.bind_eq_bind, Option.bind_eq_some_iff] at starts
  obtain ⟨connection, found, control, taken, starts⟩ := starts
  rw [ControlQueue.take?] at taken
  split at taken
  · rename_i waiting
    cases taken
    cases starts
    let claimed : Connection :=
      { connection with
        control := { connection.control with reader := .taken }, attached := true }
    refine ⟨connection, found, waiting, ?_, rfl⟩
    have sameId : ((Upkeep.sendControl (.welcome id connection.protocolVersion)).apply
        claimed).id = connection.id := Upkeep.id_apply _ claimed
    have touches := Hub.Touches.put wellFormed found sameId
    rw [Upkeep.apply_sendControl] at touches
    rw [opened, Upkeep.apply_sendControl]
    exact touches
  · cases taken

/-! What an action that puts nothing into the buffer does to a connection and its session. -/

inductive Concern (live next : LiveHub) (id : ConnectionId) (action : Action) : Prop where
  | apart (keeps : (live.hub.standing id).Keeps (next.hub.standing id))
      (session : next.sessions.get? id = live.sessions.get? id)
  | starts {connection : Connection} {sink : Sink} (found : live.hub.get? id = some connection)
      (unclaimed : connection.control.reader = .waiting) (silent : sink.written = [])
      (after : next.client? id = some (opened id connection sink))
  | turns {client last : Client} (before : live.client? id = some client)
      (turn : live.Turn id action client last) (after : next.client? id = some last)
      (claimed : client.connection.control.reader ≠ .waiting →
        last.connection.control.reader ≠ .waiting)

theorem concern_of_same (standing : next.hub.standing id = live.hub.standing id)
    (sessions : next.sessions.get? id = live.sessions.get? id) : live.Concern next id action :=
  .apart (.of_connection_eq (congrArg Standing.connection standing)) sessions

/-- A step of the connection's own session is a move of the client; a step of another session leaves
the client alone. -/
theorem concern_of_settle (staffed : live.Staffed) {key : ConnectionId}
    {step : Session → Option (Hub × Session)} {Move : Client → Client → Prop}
    (moves : ∀ {session connection hub after}, live.hub.get? session.id = some connection →
      step session = some (hub, after) → ∃ changed, live.hub.Touches hub session.id changed ∧
        Move ⟨connection, session⟩ ⟨changed, after⟩)
    (turns : ∀ {client last}, Move client last → client.Turns live.clock live.hub.config last)
    (claims : ∀ {client last}, Move client last → client.connection.control.reader ≠ .waiting →
      last.connection.control.reader ≠ .waiting)
    (steps : ((live.sessions.get? key).bind fun session => live.settleStep key (step session)) =
      some next) :
    live.Concern next id action := by
  obtain ⟨session, hub, after, found, stepped, rfl⟩ := settleStep_eq_some steps
  have session_id := staffed.named key session found
  obtain ⟨connection, present⟩ := Option.isSome_iff_exists.1 (staffed.known key session found)
  obtain ⟨changed, touches, move⟩ := moves (session_id.symm ▸ present) stepped
  rw [session_id] at touches
  by_cases own : id = key
  · subst own
    refine .turns (client?_eq_some present found) (Or.inl (turns move))
      (client?_eq_some touches.own ?_) (claims move)
    rw [Table.get?_insert, if_pos rfl]
  · refine concern_of_same (touches.others id own) ?_
    rw [Table.get?_insert, if_neg own]

theorem concern_startSession (staffed : live.Staffed) (key : ConnectionId)
    (failAfter stallAfter : Option Nat) :
    live.Concern (live.act (.startSession key failAfter stallAfter)) id action := by
  cases starts : Session.start live.hub key { failAfter, stallAfter } with
  | none =>
      have same : live.act (.startSession key failAfter stallAfter) = live :=
        startSession_eq_none starts
      exact concern_of_same (by rw [same]) (by rw [same])
  | some started =>
      obtain ⟨hub, session⟩ := started
      have started_eq : live.act (.startSession key failAfter stallAfter) =
          { live with hub, sessions := live.sessions.insert key session } :=
        startSession_eq_some starts
      obtain ⟨connection, found, unclaimed, touches, rfl⟩ :=
        start_eq_some staffed.wellFormed starts
      rw [started_eq]
      by_cases own : id = key
      · subst own
        exact .starts found unclaimed rfl
          (client?_eq_some_iff.2 ⟨touches.own, by rw [Table.get?_insert, if_pos rfl]⟩)
      · refine concern_of_same (touches.others id own) ?_
        rw [Table.get?_insert, if_neg own]

theorem concern_receive (staffed : live.Staffed) (key : ConnectionId) (frame : Inbound) :
    live.Concern (live.act (.receive key frame)) id action := by
  simp only [act, receive]
  split
  · rename_i session found
    split
    · by_cases own : id = key
      · subst own
        obtain ⟨connection, present⟩ :=
          Option.isSome_iff_exists.1 (staffed.known id session found)
        refine .turns (client?_eq_some present found)
          (Or.inl (.gets (session.inbound ++ [frame]))) (client?_eq_some_iff.2 ⟨present, ?_⟩)
          fun claimed => claimed
        rw [Table.get?_insert, if_pos rfl]
      · refine concern_of_same rfl ?_
        rw [Table.get?_insert, if_neg own]
    · exact concern_of_same rfl rfl
  · exact concern_of_same rfl rfl

theorem concern_limitSink (staffed : live.Staffed) (key : ConnectionId)
    (failAfter stallAfter : Option Nat) :
    live.Concern (live.act (.limitSink key failAfter stallAfter)) id
      (.limitSink key failAfter stallAfter) := by
  simp only [act, modifySink]
  by_cases own : id = key
  · subst own
    cases found : live.sessions.get? id with
    | none => exact concern_of_same rfl (by simp [found])
    | some session =>
        obtain ⟨connection, present⟩ :=
          Option.isSome_iff_exists.1 (staffed.known id session found)
        refine .turns (client?_eq_some present found)
          (Or.inr ⟨failAfter, stallAfter, rfl, rfl⟩) (client?_eq_some_iff.2 ⟨present, ?_⟩)
          fun claimed => claimed
        simp [found, Client.withSink]
  · exact concern_of_same rfl (by simp [own])

/-- What an action is to a connection that it puts nothing into the buffer of. -/
theorem concern_act (staffed : live.Staffed) {action : Action}
    (spares : action.spares id = true) (quiet : live.buffered? id action = none) :
    live.Concern (live.act action) id action := by
  have wellFormed := staffed.wellFormed
  cases routed : live.routing? action with
  | some routing =>
      obtain ⟨-, hub, sessions⟩ := act_of_routing routed
      refine concern_of_same ?_ (by rw [sessions])
      rw [hub, (Hub.effect_route wellFormed routing.event).standing]
      apply Standing.offer_of_ignored
      rw [← Standing.accepts_iff]
      simpa [buffered?, routed] using quiet
  | none =>
      cases action with
      | hub operation =>
          have isQuiet : operation.isRoute = false := by
            cases operation with
            | route event => cases routed
            | _ => rfl
          exact .apart (Hub.keeps_apply wellFormed id operation spares isQuiet) rfl
      | publish event =>
          refine concern_of_same ?_ ?_
          · rw [act, hub_publish]
          · simp only [act, publish]
            split <;> rfl
      | routeNext =>
          have same : live.act .routeNext = live := routeNext_of_none routed
          exact concern_of_same (by rw [same]) (by rw [same])
      | closeIngest => exact concern_of_same rfl rfl
      | startSession key failAfter stallAfter =>
          exact concern_startSession staffed key failAfter stallAfter
      | receive key frame => exact concern_receive staffed key frame
      | limitSink key failAfter stallAfter =>
          exact concern_limitSink staffed key failAfter stallAfter
      | beginClose key reason =>
          rcases act_beginClose live key reason with idle | begun
          · exact concern_of_same (by rw [idle]) (by rw [idle])
          · exact .apart (keeps_beginClose? wellFormed begun id)
              (by rw [(beginClose?_eq_some begun).2.1])
      | passTime clock wallClock => exact concern_of_same rfl rfl
      | setRouting running => exact concern_of_same rfl rfl
      | setMonitor phase => exact concern_of_same rfl rfl
      | work task =>
          rcases act_work live task with idle | steps
          · exact concern_of_same (by rw [idle]) (by rw [idle])
          cases task with
          | send key =>
              exact concern_of_settle staffed (Session.moves_sendStep wellFormed) .sends
                Client.Sends.claimed steps
          | receive key =>
              exact concern_of_settle staffed (Session.moves_receiveStep wellFormed) .receives
                Client.Receives.claimed steps
          | supervise key =>
              exact concern_of_settle staffed (Session.moves_superviseStep wellFormed) .supervises
                Client.Supervises.claimed steps
          | close key =>
              exact .apart (keeps_finishStep wellFormed steps id)
                (by rw [(finishStep_eq_some steps).2.1])
          | route =>
              have same := act_route_of_none routed
              exact concern_of_same (by rw [same]) (by rw [same])
          | monitor =>
              exact .apart (keeps_monitorStep wellFormed steps id)
                (by rw [(monitorStep_eq_some steps).2.1])

/-- An event that is buffered goes to the end of the buffer of an open connection. -/
theorem get?_of_buffered (staffed : live.Staffed) {payload : Payload}
    (buffered : live.buffered? id action = some payload) :
    ∃ connection, live.hub.get? id = some connection ∧ connection.isOpen = true ∧
      (live.act action).hub.get? id =
        some { connection with buffer := (connection.buffer.enqueue payload).1 } ∧
      (live.act action).sessions = live.sessions := by
  obtain ⟨routing, routed, taken⟩ := Option.bind_eq_some_iff.1 buffered
  obtain ⟨-, hub, sessions⟩ := act_of_routing routed
  split at taken
  · rename_i accepts
    cases taken
    obtain ⟨registered, opened, wants⟩ := Standing.accepts_iff.1 accepts
    obtain ⟨connection, found, isOpen⟩ := (Option.any_eq_true _ _).1 opened
    refine ⟨connection, found, isOpen, ?_, sessions⟩
    have standing := (Hub.effect_route staffed.wellFormed routing.event).standing id
    have offered := Standing.offer_of_taken found registered isOpen wants
    rw [hub]
    exact (congrArg Standing.connection standing).trans offered
  · cases taken

theorem act_buffered (serves : live.Serves id client) {action : Action} {payload : Payload}
    (buffered : live.buffered? id action = some payload) :
    client.connection.isOpen = true ∧
      (live.act action).Serves id (client.withEventAdded payload) := by
  obtain ⟨connection, found, opened, becomes, sessions⟩ := get?_of_buffered serves.staffed buffered
  cases serves.connection.symm.trans found
  refine ⟨opened, serves.staffed.act action, becomes, ?_, serves.claimed⟩
  rw [sessions]
  exact serves.session

/-- Whatever happens to a client, and puts nothing into its buffer, is one of its turns. -/
theorem turn_act (serves : live.Serves id client) {action : Action}
    (spares : action.spares id = true) (quiet : live.buffered? id action = none) :
    ∃ last, (live.act action).Serves id last ∧ live.Turn id action client last := by
  have staffed := serves.staffed.act action
  cases concern_act serves.staffed spares quiet with
  | apart keeps session =>
      obtain ⟨kept, becomes, keeps⟩ := keeps.kept client.connection serves.connection
      refine ⟨{ client with connection := kept }, ⟨staffed, becomes, ?_, ?_⟩, Or.inl (.waits keeps)⟩
      · exact session.trans serves.session
      · rw [keeps.reader serves.claimed]
        exact serves.claimed
  | starts found unclaimed silent after =>
      cases serves.connection.symm.trans found
      exact absurd unclaimed serves.claimed
  | turns before turn after claimed =>
      cases serves.client?_eq.symm.trans before
      obtain ⟨connection, session⟩ := client?_eq_some_iff.1 after
      exact ⟨_, ⟨staffed, connection, session, claimed serves.claimed⟩, turn⟩

end LiveHub

end EventHub
