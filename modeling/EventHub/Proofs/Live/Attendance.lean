import EventHub.Proofs.Live.Turn
import EventHub.Proofs.Session.Output

/-!
What one action makes of a client whose sink takes everything at once. The queues of the connection
are left to its session, and time passes only when the send loop has nothing to do; otherwise
anything may happen.
-/

namespace EventHub.LiveHub

/-- Leaves the sink of a session as it is. -/
def Action.sparesSink (id : ConnectionId) : Action → Bool
  | .limitSink other _ _ => other ≠ id
  | _ => true

/-- Time does not pass while the send loop of a client has a step to take. -/
def Prompt (id : ConnectionId) : LiveHub → List Action → Prop
  | _, [] => True
  | live, action :: rest =>
      (∀ clock wallClock, action = .passTime clock wallClock →
        live.taskStep (.send id) = none) ∧ Prompt id (live.act action) rest

variable {live next : LiveHub} {id : ConnectionId} {client last : Client} {config : HubConfig}
  {action : Action}

theorem prompt_append {earlier later : List Action} :
    Prompt id live (earlier ++ later) ↔
      Prompt id live earlier ∧ Prompt id (live.run earlier) later := by
  induction earlier generalizing live with
  | nil => simp [Prompt]
  | cons action rest ih => simp [Prompt, ih, and_assoc]

/-! Nothing but the passing of time moves the clock. -/

theorem clock_beginCloses (live : LiveHub) (reason : CloseReason) (ids : List ConnectionId) :
    (live.beginCloses reason ids).clock = live.clock := by
  induction ids generalizing live with
  | nil => rfl
  | cons key rest ih =>
      rw [beginCloses, List.foldl_cons]
      cases begun : live.beginClose? key reason with
      | none => exact ih live
      | some next =>
          obtain ⟨hub, -, rfl⟩ := Option.map_eq_some_iff.1 begun
          exact ih _

theorem clock_taskStep {task : Task} (steps : live.taskStep task = some next) :
    next.clock = live.clock := by
  cases task with
  | send key =>
      obtain ⟨session, hub, after, -, -, rfl⟩ := settleStep_eq_some steps
      rfl
  | receive key =>
      obtain ⟨session, hub, after, -, -, rfl⟩ := settleStep_eq_some steps
      rfl
  | supervise key =>
      obtain ⟨session, hub, after, -, -, rfl⟩ := settleStep_eq_some steps
      rfl
  | close key =>
      obtain ⟨closing, -, -, rfl⟩ := closing_of_finishStep steps
      rfl
  | route =>
      simp only [taskStep, routeStep] at steps
      split at steps
      · obtain ⟨taken, -, rfl⟩ := Option.map_eq_some_iff.1 steps
        rfl
      · cases steps
  | monitor =>
      cases monitorTurn steps with
      | passes monitor phase becomes => rw [becomes, clock_beginCloses]
      | rests phase becomes => rw [becomes]

theorem clock_act (timeless : ∀ clock wallClock, action ≠ .passTime clock wallClock) :
    (live.act action).clock = live.clock := by
  cases action with
  | passTime clock wallClock => exact absurd rfl (timeless clock wallClock)
  | publish event =>
      simp only [act, publish]
      split <;> rfl
  | routeNext =>
      simp only [act, routeNext]
      split <;> rfl
  | startSession key failAfter stallAfter =>
      simp only [act, startSession]
      split <;> rfl
  | receive key frame =>
      simp only [act, receive]
      split
      · split <;> rfl
      · rfl
  | beginClose key reason =>
      rcases act_beginClose live key reason with idle | begun
      · rw [idle]
      · obtain ⟨hub, -, equal⟩ := Option.map_eq_some_iff.1 begun
        rw [← equal]
  | work task =>
      rcases act_work live task with idle | steps
      · rw [idle]
      · exact clock_taskStep steps
  | _ => rfl

/-! One action. -/

/-- A client in order, in a hub with this configuration. -/
structure Attends (config : HubConfig) (id : ConnectionId) (live : LiveHub) (client : Client) :
    Prop where
  serves : live.Serves id client
  orderly : client.Orderly live.clock
  config : live.hub.config = config
  tagged : ∀ payload ∈ client.queue, isEventText payload = true

theorem config_act (wellFormed : live.hub.WellFormed) (action : Action) :
    (live.act action).hub.config = live.hub.config := by
  obtain ⟨operations, reached⟩ := hub_act wellFormed action
  rw [reached, Hub.config_run wellFormed]

theorem isEventText_of_buffered {payload : Payload}
    (buffered : live.buffered? id action = some payload) : isEventText payload = true := by
  obtain ⟨routing, -, taken⟩ := Option.bind_eq_some_iff.1 buffered
  split at taken
  · cases taken
    exact routing.event.isEventText_toPayload
  · cases taken

/-- A send loop with nothing to do is not in the middle of a close. -/
theorem Attends.isOver_of_idle (attends : Attends config id live client)
    (idle : live.taskStep (.send id) = none) (cancelled : client.connection.cancelled = true) :
    client.session.send = .over := by
  refine Classical.byContradiction fun unfinished => ?_
  have found : live.hub.get? client.session.id = some client.connection := by
    rw [attends.serves.named]
    exact attends.serves.connection
  have steps := attends.orderly.isSome_sendStep found cancelled unfinished
  obtain ⟨outcome, steps⟩ := Option.isSome_iff_exists.1 steps
  simp only [taskStep, attends.serves.session, Option.bind_some, steps] at idle
  cases idle

/-- What one action makes of a client in order. -/
inductive Course (live : LiveHub) (id : ConnectionId) (action : Action) (client last : Client) :
    Prop where
  | buffers (payload : Payload) (buffered : live.buffered? id action = some payload)
      (opened : client.connection.isOpen = true) (added : last = client.withEventAdded payload)
  | turns (quiet : live.buffered? id action = none)
      (turn : client.Turns live.clock live.hub.config last)

theorem Attends.passTime (attends : Attends config id live client) {clock wallClock : Instant}
    (idle : live.taskStep (.send id) = none) :
    Attends config id (live.act (.passTime clock wallClock)) client where
  serves := attends.serves.of_same (attends.serves.staffed.act _) rfl rfl
  orderly :=
    { attends.orderly with
      patient := by
        intro deadline sending
        have cancelled := (attends.orderly.patient deadline sending).1
        exact ⟨cancelled, Or.inl (attends.isOver_of_idle idle cancelled)⟩ }
  config := attends.config
  tagged := attends.tagged

theorem Attends.buffers (attends : Attends config id live client) {payload : Payload}
    (buffered : live.buffered? id action = some payload) :
    Attends config id (live.act action) (client.withEventAdded payload) := by
  obtain ⟨opened, serves⟩ := act_buffered attends.serves buffered
  have timeless (clock wallClock : Instant) : action ≠ .passTime clock wallClock := by
    rintro rfl
    cases buffered
  refine ⟨serves, ?_, (config_act attends.serves.staffed.wellFormed action).trans attends.config,
    ?_⟩
  · rw [clock_act timeless]
    exact attends.orderly.added opened payload
  · intro other member
    rw [Client.queue, Client.withEventAdded, Buffer.queue_enqueue] at member
    rcases List.mem_append.1 member with kept | isNew
    · exact attends.tagged other (client.connection.buffer.queue_makeRoom_suffix.subset kept)
    · rw [List.mem_singleton.1 isNew]
      exact isEventText_of_buffered buffered

theorem Attends.turns (attends : Attends config id live client)
    (patient : 0 < Session.sendGrace config)
    (timeless : ∀ clock wallClock, action ≠ .passTime clock wallClock)
    (serves : (live.act action).Serves id last)
    (turn : client.Turns live.clock live.hub.config last) :
    Attends config id (live.act action) last := by
  have patient : 0 < Session.sendGrace live.hub.config := attends.config.symm ▸ patient
  refine ⟨serves, ?_, (config_act attends.serves.staffed.wellFormed action).trans attends.config,
    ?_⟩
  · rw [clock_act timeless]
    exact attends.orderly.turns patient turn
  · intro payload member
    exact attends.tagged payload
      ((Client.queue_turns attends.orderly patient turn).subset member)

theorem Attends.act (attends : Attends config id live client)
    (patient : 0 < Session.sendGrace config) (spares : action.spares id = true)
    (sparesSink : action.sparesSink id = true)
    (prompt : ∀ clock wallClock, action = .passTime clock wallClock →
      live.taskStep (.send id) = none) :
    ∃ last, Attends config id (live.act action) last ∧ Course live id action client last := by
  cases buffered : live.buffered? id action with
  | some payload =>
      have opened := (act_buffered attends.serves buffered).1
      exact ⟨_, attends.buffers buffered, .buffers payload buffered opened rfl⟩
  | none =>
      by_cases passes : ∃ clock wallClock, action = .passTime clock wallClock
      · obtain ⟨clock, wallClock, rfl⟩ := passes
        exact ⟨client, attends.passTime (prompt clock wallClock rfl),
          .turns buffered (.waits (.refl client.connection))⟩
      · have timeless (clock wallClock : Instant) : action ≠ .passTime clock wallClock :=
          fun same => passes ⟨clock, wallClock, same⟩
        obtain ⟨last, serves, turn⟩ := turn_act attends.serves spares buffered
        rcases turn with turn | ⟨failAfter, stallAfter, rfl, -⟩
        · exact ⟨last, attends.turns patient timeless serves turn, .turns buffered turn⟩
        · simp [Action.sparesSink] at sparesSink

/-! Whole runs. -/

/-- Nothing is done to a connection, or to its sink, that only its session does. -/
def Spared (id : ConnectionId) (actions : List Action) : Prop :=
  ∀ action ∈ actions, action.spares id = true ∧ action.sparesSink id = true

theorem Course.ahead (course : Course live id action client last)
    (attends : Attends config id live client) (patient : 0 < Session.sendGrace config) :
    client.ahead <+: last.ahead := by
  cases course with
  | buffers payload buffered opened added =>
      rw [added]
      exact List.prefix_refl _
  | turns quiet turn =>
      exact Client.ahead_turns attends.orderly (attends.config.symm ▸ patient) turn

theorem Course.eventLine (course : Course live id action client last)
    (attends : Attends config id live client) (patient : 0 < Session.sendGrace config) :
    last.eventLine.Sublist (client.eventLine ++ (live.buffered? id action).toList) := by
  cases course with
  | buffers payload buffered opened added =>
      have queue_eq : last.queue = client.connection.buffer.makeRoom.queue ++ [payload] := by
        rw [added]
        exact client.connection.buffer.queue_enqueue payload
      have ahead_eq : last.ahead = client.ahead := by
        rw [added]
        rfl
      rw [Client.eventLine, Client.eventLine, queue_eq, ahead_eq, buffered, Option.toList_some,
        ← List.append_assoc]
      have kept := client.connection.buffer.queue_makeRoom_suffix.sublist
      exact (kept.append_left _).append_right _
  | turns quiet turn =>
      have same := Client.eventLine_turns attends.orderly (attends.config.symm ▸ patient)
        attends.tagged turn
      rw [same]
      exact List.sublist_append_left _ _

theorem Course.flushes (course : Course live id action client last)
    (attends : Attends config id live client) (patient : 0 < Session.sendGrace config)
    (cancelled : client.connection.cancelled = true) {said events : List Payload}
    (flushes : client.Flushes said events) :
    last.connection.cancelled = true ∧ last.Flushes said events := by
  cases course with
  | buffers payload buffered opened added =>
      rw [attends.orderly.isOpen_of_cancelled cancelled] at opened
      cases opened
  | turns quiet turn =>
      have patient : 0 < Session.sendGrace live.hub.config := attends.config.symm ▸ patient
      refine ⟨?_, Client.flushes_turns attends.orderly patient cancelled turn flushes⟩
      rcases attends.orderly.sends_or_spares patient turn with move | spares
      · exact (Client.cancelled_sends attends.orderly move).trans cancelled
      · exact spares.keeps.cancelled cancelled

/-- Before a close was asked for, an event is taken only when no control message waits. -/
theorem Course.waiting_eq_nil (course : Course live id action client last)
    (attends : Attends config id live client) (patient : 0 < Session.sendGrace config)
    (uncancelled : client.connection.cancelled = false)
    (quiet : live.buffered? id action = none) {payload : Payload}
    (taken : client.queue = payload :: last.queue) : client.waiting = [] := by
  have changed : last.queue ≠ client.queue := by
    intro same
    have longer := congrArg List.length taken
    rw [same, List.length_cons] at longer
    omega
  cases course with
  | buffers payload buffered opened added => simp [quiet] at buffered
  | turns _ turn =>
      rcases attends.orderly.sends_or_spares (attends.config.symm ▸ patient) turn with
        move | spares
      · cases Client.advances_sends attends.orderly move with
        | stays ahead queue heeds => exact absurd queue changed
        | takes payload queue ahead heeds unheard =>
            rcases unheard with ⟨-, silent⟩ | past
            · exact silent
            · have cancelled := attends.orderly.flushing (SendPhase.isFlush_of_not_heeds past)
              simp [uncancelled] at cancelled
      · exact absurd (congrArg Buffer.queue spares.keeps.buffer) changed

theorem Course.heeds (course : Course live id action client last)
    (attends : Attends config id live client) (patient : 0 < Session.sendGrace config)
    (before : client.connection.cancelled = false) (cancelled : last.connection.cancelled = true) :
    last.session.send.heeds = true := by
  cases course with
  | buffers payload buffered opened added =>
      rw [added] at cancelled
      simp [Client.withEventAdded, before] at cancelled
  | turns quiet turn =>
      exact Client.heeds_turns attends.orderly (attends.config.symm ▸ patient) turn before
        cancelled

end EventHub.LiveHub
