import EventHub.Proofs.Hub.Watermarks
import EventHub.Proofs.Live.Accounting

/-!
What the metrics sink of a hub at work hears of the marks of the buffers. Routing tells it of every
crossing it makes, and so does a session while it delivers. A session that writes out what is left
after a close was asked for tells nobody, nor does one that then gives the rest up, so a buffer that
resumes that way is counted by itself alone.
-/

namespace EventHub

/-- Writing out what is left after a close was asked for. -/
def Session.isFlushing (session : Session) : Bool :=
  match session.send with
  | .flushingControl _ | .flushingEvents _ | .flushWriting _ _ => true
  | .delivering | .resting _ | .writing _ | .farewell _ | .over => false

namespace Client

/-- The crossing that the next step of the send loop reports. -/
def announced (client : Client) : Option Crossing :=
  match client.session.send with
  | .delivering =>
      if client.connection.cancelled then none
      else (Session.takeNext client.connection).bind fun taken => taken.2.2
  | .resting _ | .writing _ | .flushingControl _ | .flushingEvents _ | .flushWriting _ _
  | .farewell _ | .over => none

variable {now : Instant} {config : HubConfig} {client last : Client}

theorem announced_eq_none (idle : client.session.send ≠ .delivering) :
    client.announced = none := by
  rw [announced]
  split
  · rename_i delivering
    exact absurd delivering idle
  all_goals rfl

theorem announced_of_flushing (flushing : client.session.isFlushing = true) :
    client.announced = none := by
  refine announced_eq_none fun delivering => ?_
  rw [Session.isFlushing, delivering] at flushing
  cases flushing

theorem announced_takeNext (delivering : client.session.send = .delivering)
    (uncancelled : client.connection.cancelled = false) :
    client.announced = (Session.takeNext client.connection).bind fun taken => taken.2.2 := by
  rw [announced, delivering]
  exact if_neg (by rw [uncancelled]; exact Bool.false_ne_true)

theorem takeNext_of_silent {connection : Connection} (silent : connection.control.waiting = []) :
    (Session.takeNext connection).bind (fun taken => taken.2.2) =
      connection.buffer.dequeue.2.bind Dequeued.crossing := by
  have unheard : Session.takeControl connection = none := by
    rw [Session.takeControl, ControlQueue.receive?, silent]
    rfl
  rw [Session.takeNext, unheard]
  simp only [Session.takeEvent, Connection.dequeue]
  cases connection.buffer.dequeue.2 with
  | none => rfl
  | some taken => rfl

/-- What a move of the send loop does to the buffer is announced, or done while flushing. -/
theorem Sends.crosses (move : client.Sends now config last) :
    ∃ crossing, Buffer.Crosses crossing client.connection.buffer last.connection.buffer ∧
      (crossing = client.announced ∨
        client.session.isFlushing = true ∧ crossing ≠ some .paused) := by
  have keeps (silent : client.announced = none)
      (same : last.connection.buffer = client.connection.buffer) :
      ∃ crossing, Buffer.Crosses crossing client.connection.buffer last.connection.buffer ∧
        (crossing = client.announced ∨
          client.session.isFlushing = true ∧ crossing ≠ some .paused) := by
    rw [silent, same]
    exact ⟨none, Buffer.crosses_refl _, Or.inl rfl⟩
  cases move with
  | takesEvent delivering uncancelled silent waiting =>
      rw [announced_takeNext delivering uncancelled, takeNext_of_silent silent]
      exact ⟨_, Buffer.crosses_apply _ .dequeue, Or.inl rfl⟩
  | flushesEvent flushing waiting =>
      refine ⟨_, Buffer.crosses_apply _ .dequeue, Or.inr ⟨?_, Buffer.crossing_dequeue_ne⟩⟩
      rw [Session.isFlushing, flushing]
  | timesOut holds full late =>
      refine ⟨_, Buffer.crosses_apply _ .clear, Or.inr ⟨?_, ?_⟩⟩
      · rw [Session.isFlushing, holds]
      · rw [Buffer.Step.crossing?]
        split <;> simp
  | startsFlush unflushed cancelled =>
      refine keeps ?_ rfl
      rw [announced, cancelled]
      split <;> rfl
  | takesControl delivering uncancelled waiting =>
      refine keeps ?_ rfl
      rw [announced_takeNext delivering uncancelled, Session.takeNext, Session.takeControl,
        ControlQueue.receive?, waiting]
      rfl
  | rests delivering uncancelled silent idle =>
      refine keeps ?_ rfl
      rw [announced_takeNext delivering uncancelled, takeNext_of_silent silent, Buffer.dequeue,
        idle]
      rfl
  | fails holds failed =>
      exact keeps (announced_eq_none (by simp [holds]))
        (client.connection.keeps_beginDraining .clientInitiated).buffer
  | wakes phase _ _ | writes phase _ | flushesControl phase _ | turnsToEvents phase _
  | startsFarewell phase _ | flushWrites phase _ | flushFails phase _ | closes phase _
  | leaves phase _ => exact keeps (announced_eq_none (by simp [phase])) rfl

theorem Receives.buffer (move : client.Receives last) :
    last.connection.buffer = client.connection.buffer := by
  cases move with
  | stops reading exit cancelled => rfl
  | hears reading inbound keeps => exact keeps.buffer

theorem buffer_ending (client : Client) (exit : ReceiveExit) (deadline : Instant) :
    (client.ending exit deadline).connection.buffer = client.connection.buffer := by
  rw [ending]
  split
  · rfl
  · exact (client.connection.keeps_beginDraining .clientInitiated).buffer

theorem Expires.buffer (move : client.Expires last) :
    last.connection.buffer = client.connection.buffer := by
  cases move with
  | finishes isOver keeps => exact keeps.buffer
  | abandons unfinished keeps => exact keeps.buffer

theorem Supervises.buffer (move : client.Supervises now config last) :
    last.connection.buffer = client.connection.buffer := by
  cases move with
  | waits receiving left patient => exact client.buffer_ending _ _
  | quits receiving left impatient expires => exact expires.buffer.trans (client.buffer_ending _ _)
  | expires sending due expires => exact expires.buffer

end Client

namespace Session

variable {hub next : Hub} {session after : Session} {connection : Connection} {now : Instant}

theorem crossed_deliverStep (now : Instant) (delivering : session.send = .delivering) :
    (deliverStep now hub session connection).1.crossed =
      ((Client.announced ⟨connection, session⟩).toList.map fun made => (session.id, made)) ++
        hub.crossed := by
  simp only [Client.announced, delivering, deliverStep]
  split
  · rfl
  · cases takeNext connection with
    | none => rfl
    | some taken => exact Hub.crossed_reportCrossing _ _ _

theorem crossed_restStep {wake : Instant}
    (steps : restStep now wake hub session connection = some (next, after)) :
    next.crossed = hub.crossed := by
  rw [restStep] at steps
  split at steps
  · cases steps
    rfl
  · split at steps <;> cases steps
    rfl

theorem crossed_writeStep {message : Outgoing}
    (steps : writeStep hub session message = some (next, after)) :
    next.crossed = hub.crossed := by
  rw [writeStep] at steps
  split at steps <;> cases steps
  · rfl
  · exact hub.crossed_beginDraining session.id .clientInitiated

theorem crossed_flushControlStep (deadline : Instant) :
    (flushControlStep deadline hub session connection).1.crossed = hub.crossed := by
  rw [flushControlStep]
  split <;> rfl

theorem crossed_flushEventStep (now deadline : Instant) :
    (flushEventStep now deadline hub session connection).1.crossed = hub.crossed := by
  rw [flushEventStep]
  split <;> rfl

theorem crossed_flushWriteStep {message : Outgoing} {deadline : Instant}
    (steps : flushWriteStep now deadline hub session message = some (next, after)) :
    next.crossed = hub.crossed := by
  rw [flushWriteStep] at steps
  split at steps
  · cases steps
    rfl
  · cases steps
    rfl
  · split at steps <;> cases steps
    rfl

theorem crossed_farewellStep {deadline : Instant}
    (steps : farewellStep now deadline hub session connection = some (next, after)) :
    next.crossed = hub.crossed := by
  rw [farewellStep] at steps
  split at steps
  · cases steps
    rfl
  · cases steps
    rfl
  · split at steps <;> cases steps
    rfl

theorem crossed_sendStep (found : hub.get? session.id = some connection)
    (steps : session.sendStep now hub = some (next, after)) :
    next.crossed =
      ((Client.announced ⟨connection, session⟩).toList.map fun made => (session.id, made)) ++
        hub.crossed := by
  simp only [sendStep, found] at steps
  by_cases delivering : session.send = .delivering
  · simp only [delivering, Option.some.injEq] at steps
    rw [← crossed_deliverStep now delivering, steps]
  · have silent : Client.announced ⟨connection, session⟩ = none :=
      Client.announced_eq_none delivering
    rw [silent]
    split at steps
    · contradiction
    · exact crossed_restStep steps
    · exact crossed_writeStep steps
    · rename_i deadline _
      have same : (flushControlStep deadline hub session connection).1.crossed = hub.crossed :=
        crossed_flushControlStep deadline
      rwa [Option.some.inj steps] at same
    · rename_i deadline _
      have same : (flushEventStep now deadline hub session connection).1.crossed = hub.crossed :=
        crossed_flushEventStep now deadline
      rwa [Option.some.inj steps] at same
    · exact crossed_flushWriteStep steps
    · exact crossed_farewellStep steps
    · cases steps

/-! The other two loops report no crossing, nor does the start of a session. -/

theorem crossed_start {id : ConnectionId} {sink : Sink}
    (starts : Session.start hub id sink = some (next, after)) : next.crossed = hub.crossed := by
  simp only [Session.start, Option.bind_eq_bind, Option.bind_eq_some_iff] at starts
  obtain ⟨connection, -, control, -, started⟩ := starts
  cases started
  rfl

theorem crossed_reply (hub : Hub) (id : ConnectionId) (message : ServerMessage) :
    (reply hub id message).crossed = hub.crossed := by
  rw [reply]
  split
  · split <;> rfl
  · rfl

theorem crossed_handleText (now : Instant) (hub : Hub) (id : ConnectionId) (text : String) :
    (handleText now hub id text).crossed = hub.crossed := by
  rw [handleText]
  split
  · rfl
  · rename_i command _
    cases command with
    | pong => rfl
    | subscribe events clusters =>
        exact (crossed_reply _ id _).trans (hub.crossed_subscribe id events clusters)
    | unsubscribe events => exact crossed_reply _ id _

theorem crossed_receiveStep (steps : session.receiveStep now hub = some (next, after)) :
    next.crossed = hub.crossed := by
  rw [receiveStep] at steps
  split at steps
  · split at steps
    · cases steps
      rfl
    · split at steps <;> cases steps
      · exact crossed_handleText now hub session.id _
      all_goals rfl
  · cases steps

theorem crossed_finish (hub : Hub) (session : Session) :
    (finish hub session).1.crossed = hub.crossed :=
  Hub.crossed_close _ session.id _

theorem crossed_expire (hub : Hub) (session : Session) :
    (expire hub session).1.crossed = hub.crossed := by
  rw [expire]
  split
  · exact crossed_finish hub session
  · exact crossed_finish _ _

theorem crossed_beginEnding (now : Instant) (hub : Hub) (session : Session) (exit : ReceiveExit) :
    (beginEnding now hub session exit).1.crossed = hub.crossed := by
  simp only [beginEnding]
  split
  · rfl
  · exact hub.crossed_beginDraining session.id .clientInitiated

theorem crossed_superviseStep (steps : session.superviseStep now hub = some (next, after)) :
    next.crossed = hub.crossed := by
  simp only [superviseStep] at steps
  split at steps
  · rename_i exit _ _
    have begun := crossed_beginEnding now hub session exit
    split at steps
    · have expired := crossed_expire (beginEnding now hub session exit).1
        (beginEnding now hub session exit).2
      rw [Option.some.inj steps] at expired
      exact expired.trans begun
    · cases steps
      exact begun
  · cases steps
  · split at steps
    · have expired := crossed_expire hub session
      rwa [Option.some.inj steps] at expired
    · cases steps
  · cases steps

end Session

namespace Hub

variable {hub next : Hub} {id : ConnectionId} {crossing : Option Crossing}

def isPaused (hub : Hub) (id : ConnectionId) : Bool :=
  (hub.get? id).any fun connection => connection.buffer.paused

theorem Turns.resumed_iff (turns : Turns hub next id crossing) :
    crossing = some .resumed ↔ hub.isPaused id = true ∧ next.isPaused id = false := by
  obtain ⟨before, after, found, becomes, crosses⟩ := turns.own
  rw [crosses.resumed_iff, isPaused, isPaused, found, becomes, Option.any_some, Option.any_some]

theorem Touches.turns {before after : Connection} (touches : Touches hub next id after)
    (found : hub.get? id = some before)
    (crosses : Buffer.Crosses crossing before.buffer after.buffer) :
    Turns hub next id crossing where
  own := ⟨before, after, found, touches.own, crosses⟩
  others := fun other different => congrArg Standing.connection (touches.others other different)

/-- What a session does to its own connection without a look at the buffer. -/
theorem Touches.marks {before after : Connection} (touches : Touches hub next id after)
    (found : hub.get? id = some before) (buffer : after.buffer = before.buffer)
    (crossed : next.crossed = hub.crossed) : Marks hub [] (fun _ => 0) next := by
  have turns : Turns hub next id none :=
    touches.turns found (by rw [buffer]; exact Buffer.crosses_refl before.buffer)
  exact .tells turns crossed

end Hub

namespace LiveHub

open Hub (Marks)

/-- Leaves the buffers to routing and to their sessions, and the reports of crossings to those. -/
def Action.sparesBuffers : Action → Bool
  | .hub operation => operation.isRoute || operation.isHandsOff
  | _ => true

/-- The session of the connection takes a step with which it writes out what is left. -/
def flushes (live : LiveHub) (id : ConnectionId) : Action → Bool
  | .work (.send key) => key == id && (live.sessions.get? id).any Session.isFlushing
  | _ => false

/-- A buffer resumes with a step that writes out what is left, and nobody hears of it. -/
def untold (live : LiveHub) (action : Action) (id : ConnectionId) : Nat :=
  if live.flushes id action && live.hub.isPaused id && !(live.act action).hub.isPaused id then 1
  else 0

def untoldIn : LiveHub → List Action → ConnectionId → Nat
  | _, [], _ => 0
  | live, action :: rest, id => live.untold action id + untoldIn (live.act action) rest id

variable {live next : LiveHub} {action : Action}

theorem untold_of_apart (apart : ∀ id, live.flushes id action = false) :
    live.untold action = fun _ => 0 :=
  funext fun id => by simp [untold, apart]

theorem marks_of_same (same : (live.act action).hub = live.hub) :
    Marks live.hub [] (live.untold action) (live.act action).hub := by
  have nothing : live.untold action = fun _ => 0 := funext fun id => by
    rw [untold, same]
    cases live.hub.isPaused id <;> simp
  rw [same, nothing]
  exact .refl live.hub

theorem marks_send (staffed : live.Staffed) {key : ConnectionId}
    (steps : live.taskStep (.send key) = some next) :
    ∃ entries, Marks live.hub entries (live.untold (.work (.send key))) next.hub := by
  obtain ⟨session, hub, after, served, stepped, rfl⟩ := settleStep_eq_some steps
  obtain rfl := staffed.named key session served
  obtain ⟨connection, found⟩ := Option.isSome_iff_exists.1 (staffed.known _ session served)
  obtain ⟨changed, touches, move⟩ := Session.moves_sendStep staffed.wellFormed found stepped
  have reported := Session.crossed_sendStep found stepped
  obtain ⟨crossing, crosses, told⟩ := move.crosses
  have turns := touches.turns found crosses
  have becomes : (live.act (.work (.send session.id))).hub = hub := by
    rw [act, steps]
    rfl
  have untold_eq : live.untold (.work (.send session.id)) = fun id =>
      if id = session.id ∧ session.isFlushing = true ∧ crossing = some .resumed then 1 else 0 := by
    funext id
    rw [untold, becomes, flushes]
    by_cases own : id = session.id
    · subst own
      simp [served, turns.resumed_iff, and_assoc]
    · simp [own, Ne.symm own]
  rw [untold_eq]
  rcases told with rfl | ⟨flushing, unpaused⟩
  · have nothing (id : ConnectionId) : ¬(id = session.id ∧ session.isFlushing = true ∧
        Client.announced ⟨connection, session⟩ = some .resumed) := by
      rintro ⟨-, flushing, resumed⟩
      rw [Client.announced_of_flushing flushing] at resumed
      cases resumed
    simp only [nothing, if_false]
    exact ⟨_, .tells turns reported⟩
  · rw [Client.announced_of_flushing flushing] at reported
    simp only [flushing, true_and]
    exact ⟨[], .hushes turns unpaused reported⟩

theorem marks_receive (staffed : live.Staffed) {key : ConnectionId}
    (steps : live.taskStep (.receive key) = some next) :
    Marks live.hub [] (fun _ => 0) next.hub := by
  obtain ⟨session, hub, after, served, stepped, rfl⟩ := settleStep_eq_some steps
  obtain rfl := staffed.named key session served
  obtain ⟨connection, found⟩ := Option.isSome_iff_exists.1 (staffed.known _ session served)
  obtain ⟨changed, touches, move⟩ := Session.moves_receiveStep staffed.wellFormed found stepped
  exact touches.marks found move.buffer (Session.crossed_receiveStep stepped)

theorem marks_supervise (staffed : live.Staffed) {key : ConnectionId}
    (steps : live.taskStep (.supervise key) = some next) :
    Marks live.hub [] (fun _ => 0) next.hub := by
  obtain ⟨session, hub, after, served, stepped, rfl⟩ := settleStep_eq_some steps
  obtain rfl := staffed.named key session served
  obtain ⟨connection, found⟩ := Option.isSome_iff_exists.1 (staffed.known _ session served)
  obtain ⟨changed, touches, move⟩ := Session.moves_superviseStep staffed.wellFormed found stepped
  exact touches.marks found move.buffer (Session.crossed_superviseStep stepped)

theorem crossed_beginClose? {key : ConnectionId} {reason : CloseReason}
    (begun : live.beginClose? key reason = some next) : next.hub.crossed = live.hub.crossed := by
  obtain ⟨hub, closing, rfl⟩ := Option.map_eq_some_iff.1 begun
  exact Hub.crossed_beginClose? closing

theorem crossed_beginCloses (live : LiveHub) (reason : CloseReason) (ids : List ConnectionId) :
    (live.beginCloses reason ids).hub.crossed = live.hub.crossed :=
  List.foldlRecOn (motive := fun (state : LiveHub) => state.hub.crossed = live.hub.crossed) _ _ rfl
    fun state same id _ => by
      cases begun : state.beginClose? id reason with
      | none => exact same
      | some next => exact (crossed_beginClose? begun).trans same

theorem crossed_monitorStep (wellFormed : live.hub.WellFormed)
    (steps : live.monitorStep = some next) : next.hub.crossed = live.hub.crossed := by
  cases monitorTurn steps with
  | passes monitor phase becomes =>
      subst becomes
      exact (crossed_beginCloses _ _ _).trans
        (Hub.crossed_survey wellFormed live.wallClock live.stamp)
  | rests phase becomes =>
      subst becomes
      rfl

theorem crossed_finishStep {key : ConnectionId} (steps : live.finishStep key = some next) :
    next.hub.crossed = live.hub.crossed := by
  obtain ⟨closing, -, -, rfl⟩ := closing_of_finishStep steps
  exact live.hub.crossed_finishClose key closing.reason

theorem buffer_opened (id : ConnectionId) (connection : Connection) (sink : Sink) :
    (opened id connection sink).connection.buffer = connection.buffer := by
  rw [opened]
  obtain ⟨heartbeat, control, attached, finished, applied⟩ :=
    (Upkeep.sendControl (.welcome id connection.protocolVersion)).apply_eq
      { connection with
        control := { connection.control with reader := .taken }, attached := true }
  rw [applied]

theorem marks_of_keeps (keeps : ∀ id, (live.hub.standing id).Keeps (next.hub.standing id))
    (crossed : next.hub.crossed = live.hub.crossed) :
    Marks live.hub [] (fun _ => 0) next.hub :=
  .still (fun id => Hub.made_of_keeps (keeps id)) crossed

theorem marks_startSession (wellFormed : live.hub.WellFormed) (key : ConnectionId) (sink : Sink) :
    Marks live.hub [] (fun _ => 0) (live.startSession key sink).1.hub := by
  cases starts : Session.start live.hub key sink with
  | none =>
      rw [startSession_eq_none starts]
      exact .refl live.hub
  | some started =>
      rw [startSession_eq_some starts]
      obtain ⟨connection, found, -, touches, -⟩ := start_eq_some wellFormed starts
      exact touches.marks found (buffer_opened key connection sink) (Session.crossed_start starts)

theorem marks_work (staffed : live.Staffed) {task : Task} (apart : ∀ id, task ≠ .send id)
    (quiet : task ≠ .route) (steps : live.taskStep task = some next) :
    Marks live.hub [] (fun _ => 0) next.hub := by
  have wellFormed := staffed.wellFormed
  cases task with
  | send id => exact absurd rfl (apart id)
  | receive id => exact marks_receive staffed steps
  | supervise id => exact marks_supervise staffed steps
  | close id =>
      exact marks_of_keeps (keeps_finishStep wellFormed steps) (crossed_finishStep steps)
  | route => exact absurd rfl quiet
  | monitor =>
      exact marks_of_keeps (keeps_monitorStep wellFormed steps)
        (crossed_monitorStep wellFormed steps)

/-- What marks a buffer crosses outside of a flush, the sink hears of. -/
theorem marks_of_apart {entries : List (ConnectionId × Crossing)}
    (apart : ∀ id, live.flushes id action = false)
    (marks : Marks live.hub entries (fun _ => 0) (live.act action).hub) :
    ∃ entries, Marks live.hub entries (live.untold action) (live.act action).hub := by
  rw [untold_of_apart apart]
  exact ⟨entries, marks⟩

theorem marks_routing (wellFormed : live.hub.WellFormed) {routing : Routing}
    (routed : live.routing? action = some routing) :
    ∃ entries, Marks live.hub entries (live.untold action) (live.act action).hub := by
  have apart (id : ConnectionId) : live.flushes id action = false := by
    cases action with
    | work task =>
        cases task with
        | route => rfl
        | _ => cases routed
    | _ => rfl
  obtain ⟨entries, marks⟩ := Hub.marks_route wellFormed routing.event
  rw [← (act_of_routing routed).2.1] at marks
  exact marks_of_apart apart marks

theorem marks_task (staffed : live.Staffed) {task : Task}
    (unrouted : live.routing? (.work task) = none) :
    ∃ entries, Marks live.hub entries (live.untold (.work task)) (live.act (.work task)).hub := by
  rcases act_work live task with idle | steps
  · exact ⟨[], marks_of_same (congrArg hub idle)⟩
  by_cases isRoute : task = .route
  · subst isRoute
    exact ⟨[], marks_of_same (congrArg hub (act_route_of_none unrouted))⟩
  by_cases sends : ∃ id, task = .send id
  · obtain ⟨id, rfl⟩ := sends
    exact marks_send staffed steps
  · have apart (id : ConnectionId) : task ≠ .send id := fun same => sends ⟨id, same⟩
    refine marks_of_apart (fun id => ?_) (marks_work staffed apart isRoute steps)
    cases task with
    | send id => exact absurd rfl (apart id)
    | _ => rfl

/-- Whatever happens next, the sink hears of each crossing but for those that are untold. -/
theorem marks_act (staffed : live.Staffed) (spares : action.sparesBuffers = true) :
    ∃ entries, Marks live.hub entries (live.untold action) (live.act action).hub := by
  have wellFormed := staffed.wellFormed
  cases routed : live.routing? action with
  | some routing => exact marks_routing wellFormed routed
  | none =>
      cases action with
      | hub operation =>
          have handsOff : operation.isHandsOff = true := by
            cases operation with
            | route event => cases routed
            | _ => simpa [Action.sparesBuffers, Hub.Operation.isRoute] using spares
          exact marks_of_apart (fun _ => rfl) (Hub.marks_apply wellFormed handsOff)
      | publish event => exact ⟨[], marks_of_same (live.hub_publish event)⟩
      | routeNext => exact ⟨[], marks_of_same (congrArg hub (routeNext_of_none routed))⟩
      | closeIngest | limitSink _ _ _ | passTime _ _ | setRouting _ | setMonitor _ =>
          exact ⟨[], marks_of_same rfl⟩
      | startSession key failAfter stallAfter =>
          exact marks_of_apart (fun _ => rfl) (marks_startSession wellFormed key _)
      | receive key frame => exact ⟨[], marks_of_same (live.hub_receive key frame)⟩
      | beginClose key reason =>
          rcases act_beginClose live key reason with idle | begun
          · exact ⟨[], marks_of_same (congrArg hub idle)⟩
          · exact marks_of_apart (fun _ => rfl)
              (marks_of_keeps (keeps_beginClose? wellFormed begun) (crossed_beginClose? begun))
      | work task => exact marks_task staffed routed

theorem marks_run (staffed : live.Staffed) {actions : List Action}
    (spared : ∀ action ∈ actions, action.sparesBuffers = true) :
    ∃ entries, Marks live.hub entries (live.untoldIn actions) (live.run actions).hub := by
  induction actions generalizing live with
  | nil => exact ⟨[], .refl live.hub⟩
  | cons action rest ih =>
      obtain ⟨spares, spared⟩ := List.forall_mem_cons.1 spared
      obtain ⟨earlier, first⟩ := marks_act staffed spares
      obtain ⟨later, second⟩ := ih (staffed.act action) spared
      exact ⟨later ++ earlier, first.trans second⟩

/-- From its start on a hub reports every crossing once, as long as buffers are filled by routing
and emptied by their sessions, but for the resumes that nobody is told of. -/
theorem crossings_accounted (config : HubConfig) {actions : List Action}
    (spared : ∀ action ∈ actions, action.sparesBuffers = true)
    (requests : Table RequestLabels RequestTally) (activeRequests : Nat) :
    ((idle config).run actions).hub.CrossingBooks
      (Metrics.withReports { requests, activeRequests } ((idle config).run actions).hub.reports)
      ((idle config).untoldIn actions) := by
  obtain ⟨entries, marks⟩ := marks_run (staffed_idle config) spared
  exact marks.books requests activeRequests

/-- Buffers with a place for a single event. -/
def narrow : HubConfig where
  buffer := { capacity := 1 }

/-- An event fills the only place of a buffer, and the close that is asked for then finds it
there. -/
def flushedAcross : List Action :=
  [.hub (.register "c" { subject := "s" } 1), .hub (.subscribe "c" ["alert"] []),
    .startSession "c" none none, .work (.send "c"), .work (.send "c"),
    .hub (.route ⟨"alert", "west", .null, 0⟩), .beginClose "c" .serverShutdown, .work (.send "c"),
    .work (.send "c"), .work (.send "c")]

theorem crossings_accounted_flushed :
    (∀ action ∈ flushedAcross, action.sparesBuffers = true) ∧
      ((idle narrow).run flushedAcross).hub.CrossingBooks
        (Metrics.withReports {} ((idle narrow).run flushedAcross).hub.reports)
        ((idle narrow).untoldIn flushedAcross) := by
  have spared : ∀ action ∈ flushedAcross, action.sparesBuffers = true := by decide
  exact ⟨spared, crossings_accounted narrow spared ∅ 0⟩

/-- The buffer resumed, but the sink heard of the pause only. -/
theorem flushed_untold :
    (∀ action ∈ flushedAcross, action.sparesBuffers = true) ∧
      (Metrics.withReports {} ((idle narrow).run flushedAcross).hub.reports).transitions
        .paused = 1 ∧
      (Metrics.withReports {} ((idle narrow).run flushedAcross).hub.reports).transitions
        .resumed = 0 ∧
      ((idle narrow).run flushedAcross).hub.totalMade .paused = 1 ∧
      ((idle narrow).run flushedAcross).hub.totalMade .resumed = 1 := by
  have fresh : (idle narrow).run flushedAcross =
      (((idle narrow).run (flushedAcross.take 1)).withBuffer "c"
        (Buffer.ofConfig narrow.buffer)).run (flushedAcross.drop 1) := rfl
  rw [fresh, Buffer.ofConfig_single Nat.le.refl]
  exact ⟨by decide, rfl, rfl, rfl, rfl⟩

end LiveHub

end EventHub
