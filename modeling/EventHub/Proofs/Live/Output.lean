import EventHub.Proofs.Live.Attendance

/-!
The output of a session over a whole run: what is written at the end, what it owes to each moment
on the way, and that the session gets there.
-/

namespace EventHub.LiveHub

variable {live next : LiveHub} {id : ConnectionId} {client last : Client} {config : HubConfig}
  {action : Action}

/-- What a run of actions makes of the output of a client. -/
structure Follows (live : LiveHub) (id : ConnectionId) (actions : List Action)
    (client last : Client) : Prop where
  ahead : client.ahead <+: last.ahead
  eventLine : last.eventLine.Sublist (client.eventLine ++ live.bufferedIn id actions)
  flushes : client.connection.cancelled = true → ∀ said events, client.Flushes said events →
    last.Flushes said events

theorem Attends.run (attends : Attends config id live client)
    (patient : 0 < Session.sendGrace config) {actions : List Action}
    (spared : Spared id actions) (prompt : Prompt id live actions) :
    ∃ last, Attends config id (live.run actions) last ∧ Follows live id actions client last := by
  induction actions generalizing live client with
  | nil =>
      refine ⟨client, attends, List.prefix_refl _, ?_, fun _ _ _ flushes => flushes⟩
      exact (List.append_nil client.eventLine).symm ▸ List.Sublist.refl _
  | cons action rest ih =>
      obtain ⟨spares, sparesSink⟩ := spared action List.mem_cons_self
      obtain ⟨middle, attendsMiddle, course⟩ := attends.act patient spares sparesSink prompt.1
      obtain ⟨last, attendsLast, follows⟩ := ih attendsMiddle
        (fun other member => spared other (List.mem_cons_of_mem action member)) prompt.2
      refine ⟨last, attendsLast, (course.ahead attends patient).trans follows.ahead, ?_, ?_⟩
      · have earlier := course.eventLine attends patient
        rw [bufferedIn, ← List.append_assoc]
        exact follows.eventLine.trans (earlier.append_right _)
      · intro cancelled said events flushesFirst
        obtain ⟨still, flushesMiddle⟩ := course.flushes attends patient cancelled flushesFirst
        exact follows.flushes still said events flushesMiddle

theorem spared_append {earlier later : List Action} :
    Spared id (earlier ++ later) ↔ Spared id earlier ∧ Spared id later :=
  List.forall_mem_append

theorem Attends.passes (attends : Attends config id live client)
    (patient : 0 < Session.sendGrace config) {earlier later : List Action} {middle : Client}
    (spared : Spared id (earlier ++ later)) (prompt : Prompt id live (earlier ++ later))
    (met : (live.run earlier).client? id = some middle)
    (reached : (live.run (earlier ++ later)).client? id = some last) :
    Attends config id (live.run earlier) middle ∧
      Follows (live.run earlier) id later middle last := by
  obtain ⟨sparedEarlier, sparedLater⟩ := spared_append.1 spared
  obtain ⟨promptEarlier, promptLater⟩ := prompt_append.1 prompt
  obtain ⟨passed, attendsMiddle, -⟩ := attends.run patient sparedEarlier promptEarlier
  cases met.symm.trans attendsMiddle.serves.client?_eq
  obtain ⟨final, attendsLast, follows⟩ := attendsMiddle.run patient sparedLater promptLater
  rw [run_append] at reached
  cases reached.symm.trans attendsLast.serves.client?_eq
  exact ⟨attendsMiddle, follows⟩

/-! The end of a session. -/

theorem act_of_steps {task : Task} (steps : live.taskStep task = some next) :
    live.act (.work task) = next := by
  rw [act, steps]
  rfl

theorem act_of_no_step {task : Task} (idle : live.taskStep task = none) :
    live.act (.work task) = live := by
  rw [act, idle]
  rfl

theorem Attends.sends (attends : Attends config id live client)
    (patient : 0 < Session.sendGrace config) (steps : live.taskStep (.send id) = some next) :
    ∃ last, Attends config id (live.act (.work (.send id))) last ∧
      client.Sends live.clock live.hub.config last := by
  have act_eq := act_of_steps steps
  obtain ⟨session, hub, after, found, stepped, next_eq⟩ := settleStep_eq_some steps
  cases attends.serves.session.symm.trans found
  have present : live.hub.get? client.session.id = some client.connection := by
    rw [attends.serves.named]
    exact attends.serves.connection
  obtain ⟨changed, touches, move⟩ :=
    Session.moves_sendStep attends.serves.staffed.wellFormed present stepped
  rw [attends.serves.named] at touches
  have serves : (live.act (.work (.send id))).Serves id ⟨changed, after⟩ := by
    refine ⟨attends.serves.staffed.act _, ?_, ?_, move.claimed attends.serves.claimed⟩
    · rw [act_eq, next_eq]
      exact touches.own
    · rw [act_eq, next_eq, Table.get?_insert, if_pos rfl]
  exact ⟨⟨changed, after⟩, attends.turns patient nofun serves (.sends move), move⟩

theorem isOver_of_stepsLeft (finished : client.stepsLeft = 0) : client.session.send = .over := by
  cases phase : client.session.send with
  | «over» => rfl
  | flushWriting message deadline => cases message <;> simp [Client.stepsLeft, phase] at finished
  | _ => simp [Client.stepsLeft, phase] at finished

/-- Once a close was asked for, the send loop is over after so many of its own steps. -/
theorem Attends.isOver_replicate (attends : Attends config id live client)
    (patient : 0 < Session.sendGrace config) (cancelled : client.connection.cancelled = true)
    {steps : Nat} (enough : client.stepsLeft ≤ steps) :
    ∃ last, Attends config id (live.run (List.replicate steps (.work (.send id)))) last ∧
      last.session.send = .over := by
  induction steps generalizing live client with
  | zero => exact ⟨client, attends, isOver_of_stepsLeft (Nat.le_zero.1 enough)⟩
  | succ steps ih =>
      rw [List.replicate_succ, run_cons]
      cases stepped : live.taskStep (.send id) with
      | none =>
          have isOver := attends.isOver_of_idle stepped cancelled
          rw [act_of_no_step stepped]
          exact ih attends cancelled (by simp [Client.stepsLeft, isOver])
      | some next =>
          obtain ⟨last, attendsLast, move⟩ := attends.sends patient stepped
          have fewer := Client.stepsLeft_sends attends.orderly cancelled move
          exact ih attendsLast ((Client.cancelled_sends attends.orderly move).trans cancelled)
            (by omega)

theorem Attends.isSome_ended? (attends : Attends config id live client)
    (cancelled : client.connection.cancelled = true)
    (sent : live.taskStep (.send id) = none) (received : live.taskStep (.receive id) = none)
    (supervised : live.taskStep (.supervise id) = none) :
    client.session.ended?.isSome = true := by
  have isOver := attends.isOver_of_idle sent cancelled
  have present : live.hub.get? client.session.id = some client.connection := by
    rw [attends.serves.named]
    exact attends.serves.connection
  cases supervise : client.session.supervise with
  | «over» reason => simp [Session.ended?, supervise]
  | sending deadline =>
      simp [taskStep, attends.serves.session, Session.superviseStep, supervise, isOver,
        settleStep] at supervised
  | receiving =>
      cases receive : client.session.receive with
      | reading =>
          simp [taskStep, attends.serves.session, Session.receiveStep, receive, present,
            cancelled, settleStep] at received
      | «over» exit =>
          simp [taskStep, attends.serves.session, Session.superviseStep, supervise, receive,
            settleStep] at supervised

/-! The start of a session. -/

theorem tagged_run_idle (config : HubConfig) (actions : List Action) {connection : Connection}
    (found : ((idle config).run actions).hub.get? id = some connection) :
    ∀ payload ∈ connection.buffer.queue, isEventText payload = true := by
  intro payload member
  have delivery := (delivery_idle config id).run actions
  have queue_eq : (((idle config).run actions).hub.standing id).queue =
      connection.buffer.queue := by
    simp [Standing.queue, Hub.standing, found]
  have routed := ((queue_sublist_trail delivery.named).trans delivery.trail).subset
    (queue_eq.symm ▸ member)
  obtain ⟨routing, -, rfl⟩ := List.mem_map.1 routed
  exact routing.event.isEventText_toPayload

theorem attends_opened (config : HubConfig) (before : List Action)
    (starts : (Session.start ((idle config).run before).hub id {}).isSome = true) :
    ∃ connection, ((idle config).run before).hub.get? id = some connection ∧
      Attends config id (((idle config).run before).act (.startSession id none none))
        (opened id connection {}) := by
  have wellFormed := (staffed_idle config).run before |>.wellFormed
  obtain ⟨⟨hub, session⟩, starts⟩ := Option.isSome_iff_exists.1 starts
  obtain ⟨connection, found, waiting, touches, rfl⟩ := start_eq_some wellFormed starts
  have act_eq : ((idle config).run before).act (.startSession id none none) =
      { (idle config).run before with
        hub, sessions := ((idle config).run before).sessions.insert id { id, sink := {} } } :=
    startSession_eq_some starts
  have regular := regular_run_idle config before found
  let claimed : Connection :=
    { connection with control := { connection.control with reader := .taken }, attached := true }
  have keeps : claimed.Keeps (opened id connection {}).connection :=
    Upkeep.keeps_apply (.sendControl (.welcome id connection.protocolVersion)) rfl claimed
  have claimedRegular : claimed.Regular := ⟨regular.asked, regular.roomy, regular.spacious⟩
  refine ⟨connection, found, ⟨((staffed_idle config).run before).act _, ?_, ?_, ?_⟩, ?_, ?_, ?_⟩
  · rw [act_eq]
    exact touches.own
  · rw [act_eq, Table.get?_insert, if_pos rfl]
    rfl
  · rw [keeps.reader nofun]
    exact nofun
  · exact
      { unlimited := ⟨rfl, rfl⟩
        asked := (keeps.regular claimedRegular).asked
        flushing := nofun
        emptied := nofun
        texting := fun _ => rfl
        closed := nofun
        heard := nofun
        patient := nofun
        ended := nofun }
  · rw [act_eq]
    exact touches.config.trans (config_run_idle config before)
  · have tagged := tagged_run_idle config before found
    rw [Client.queue, keeps.buffer]
    exact tagged

theorem ahead_opened {connection : Connection} (regular : connection.Regular)
    (silent : connection.control.waiting = []) :
    (opened id connection {}).ahead =
      [(ServerMessage.welcome id connection.protocolVersion).toPayload] := by
  have sent : ControlQueue.send { connection.control with reader := .taken }
      (ServerMessage.welcome id connection.protocolVersion).toPayload =
        .ok { connection.control with
          reader := .taken
          waiting := [(ServerMessage.welcome id connection.protocolVersion).toPayload] } := by
    simp [ControlQueue.send, silent, Nat.not_le.2 regular.roomy]
  have welcomed : (opened id connection {}).connection.control.waiting =
      [(ServerMessage.welcome id connection.protocolVersion).toPayload] := by
    simp [opened, Upkeep.apply, Connection.sendControl, sent, Except.map, Except.toOption]
  have phase : (opened id connection {}).session.send = .delivering := rfl
  rw [Client.ahead_eq phase, Client.waiting, welcomed]
  rfl

/-! The output of a session. -/

/-- A session for `id` is started, and then these actions are taken. -/
def runSession (live : LiveHub) (id : ConnectionId) (actions : List Action) : LiveHub :=
  (live.act (.startSession id none none)).run actions

/-- The client finds itself cancelled after these actions of its session, and no earlier. -/
structure Cancels (live : LiveHub) (id : ConnectionId) (actions : List Action)
    (client : Client) : Prop where
  found : (live.runSession id actions).client? id = some client
  cancelled : client.connection.cancelled = true
  first : ∀ earlier later before, actions = earlier ++ later → later ≠ [] →
    (live.runSession id earlier).client? id = some before → before.connection.cancelled = false

/-- What the session of `id` has made of its output, `client` being how it stands after these
actions. -/
structure Output (live : LiveHub) (id : ConnectionId) (actions : List Action)
    (client : Client) : Prop where
  /-- Texts, then one close frame with the reason on record, then nothing. -/
  frames : client.session.sink.written = client.texts.map Outbound.text ++
    if client.session.send = .over then [.close client.connection.reason.frame, .finished] else []
  /-- The session ends after its close frame, and with the same reason. -/
  ended : ∀ reason, client.session.ended? = some reason →
    client.session.send = .over ∧ client.connection.reason = reason
  welcome : ∀ connection, live.hub.get? id = some connection → connection.control.waiting = [] →
    ∀ frame, client.session.sink.written.head? = some frame →
      frame = .text (ServerMessage.welcome id connection.protocolVersion).toPayload
  /-- What is ahead of the events at any time goes out as it stands, so control messages go out in
  the order of their queue; and events go out in the order in which they were buffered. -/
  inOrder : ∀ earlier later middle, actions = earlier ++ later →
    (live.runSession id earlier).client? id = some middle →
      middle.ahead <+: client.ahead ∧
        client.eventLine.Sublist
          (middle.eventLine ++ (live.runSession id earlier).bufferedIn id later)
  /-- Before a close was asked for, an event is taken only when no control message waits. -/
  controlFirst : ∀ earlier action later before after payload,
    actions = earlier ++ action :: later →
      (live.runSession id earlier).client? id = some before →
      (live.runSession id (earlier ++ [action])).client? id = some after →
      before.connection.cancelled = false →
      (live.runSession id earlier).buffered? id action = none →
      before.queue = payload :: after.queue → before.waiting = []
  /-- What was on its way when the close was asked for is all written: the message in hand, the
  control messages, those that came in during the flush, and then the events. -/
  flushed : ∀ earlier later middle, actions = earlier ++ later →
    live.Cancels id earlier middle → client.session.send = .over →
      ∃ extra : List Payload,
        (∀ payload ∈ extra, ∃ message : ServerMessage, payload = message.toPayload) ∧
          client.texts = middle.texts ++ middle.inHand ++ middle.waiting ++ extra ++ middle.queue
  /-- The send loop of a cancelled session comes to its end. -/
  finishes : client.connection.cancelled = true → ∃ steps last,
    (live.runSession id (actions ++ List.replicate steps (.work (.send id)))).client? id =
      some last ∧ last.session.send = .over
  /-- A cancelled session with no step left to take has ended. -/
  settles : client.connection.cancelled = true →
    (∀ task ∈ [Task.send id, .receive id, .supervise id],
      (live.runSession id actions).taskStep task = none) →
    client.session.ended?.isSome = true

theorem runSession_append (live : LiveHub) (id : ConnectionId) (earlier later : List Action) :
    live.runSession id (earlier ++ later) = (live.runSession id earlier).run later :=
  run_append _ earlier later

theorem Attends.frames (attends : Attends config id live client) :
    client.session.sink.written = client.texts.map Outbound.text ++
      if client.session.send = .over then [.close client.connection.reason.frame, .finished]
      else [] := by
  split
  · rename_i isOver
    exact attends.orderly.closed isOver
  · rename_i going
    rw [List.append_nil]
    exact attends.orderly.texting going

theorem Attends.ended (attends : Attends config id live client) (reason : CloseReason)
    (ended : client.session.ended? = some reason) :
    client.session.send = .over ∧ client.connection.reason = reason := by
  apply attends.orderly.ended
  cases supervise : client.session.supervise with
  | «over» found => simpa [Session.ended?, supervise] using ended
  | _ => simp [Session.ended?, supervise] at ended

theorem Attends.head?_written (attends : Attends config id live client) {payload : Payload}
    (ahead : [payload] <+: client.ahead) {frame : Outbound}
    (written : client.session.sink.written.head? = some frame) : frame = .text payload := by
  obtain ⟨rest, ahead⟩ := ahead
  have frames := attends.frames
  cases texts : client.texts with
  | cons text others =>
      rw [Client.ahead, texts] at ahead
      rw [frames, texts] at written
      cases ahead
      cases written
      rfl
  | nil =>
      have going : client.session.send ≠ .over := by
        intro isOver
        rw [Client.texts_of_over isOver, texts] at ahead
        cases ahead
      rw [frames, texts, if_neg going] at written
      cases written

theorem Attends.controlFirst (attends : Attends config id live client)
    (patient : 0 < Session.sendGrace config) (spares : action.spares id = true)
    (sparesSink : action.sparesSink id = true)
    (prompt : ∀ clock wallClock, action = .passTime clock wallClock →
      live.taskStep (.send id) = none)
    (becomes : (live.act action).client? id = some last)
    (uncancelled : client.connection.cancelled = false)
    (quiet : live.buffered? id action = none) {payload : Payload}
    (taken : client.queue = payload :: last.queue) : client.waiting = [] := by
  obtain ⟨after, attendsAfter, course⟩ := attends.act patient spares sparesSink prompt
  cases becomes.symm.trans attendsAfter.serves.client?_eq
  exact course.waiting_eq_nil attends patient uncancelled quiet taken

/-- At the moment of its cancellation a client has not begun to flush. -/
theorem Attends.heeds_of_cancels (attends : Attends config id (live.runSession id []) client)
    (delivering : client.session.send = .delivering) (patient : 0 < Session.sendGrace config)
    {actions : List Action} (spared : Spared id actions)
    (prompt : Prompt id (live.runSession id []) actions) (cancels : live.Cancels id actions last) :
    last.session.send.heeds = true := by
  rcases List.eq_nil_or_concat actions with isEmpty | ⟨earlier, action, rfl⟩
  · subst isEmpty
    cases cancels.found.symm.trans attends.serves.client?_eq
    rw [delivering]
    rfl
  · rw [List.concat_eq_append] at spared prompt cancels
    obtain ⟨sparedEarlier, sparedAction⟩ := spared_append.1 spared
    obtain ⟨promptEarlier, promptAction⟩ := prompt_append.1 prompt
    obtain ⟨before, attendsBefore, -⟩ := attends.run patient sparedEarlier promptEarlier
    obtain ⟨spares, sparesSink⟩ := sparedAction action List.mem_cons_self
    obtain ⟨after, attendsAfter, course⟩ :=
      attendsBefore.act patient spares sparesSink promptAction.1
    have found := cancels.found
    rw [runSession_append] at found
    cases found.symm.trans attendsAfter.serves.client?_eq
    have uncancelled := cancels.first earlier [action] before rfl (by simp)
      attendsBefore.serves.client?_eq
    exact course.heeds attendsBefore patient uncancelled cancels.cancelled

/-- Whatever is routed, queued, asked for or received, and in whichever order: over a sink that
takes everything the output of a session is in order and complete. -/
theorem session_output (config : HubConfig) (before actions : List Action) (id : ConnectionId)
    (starts : (Session.start ((idle config).run before).hub id {}).isSome = true)
    (patient : 0 < Session.sendGrace config) (spared : Spared id actions)
    (prompt : Prompt id (((idle config).run before).runSession id []) actions) :
    ∃ client, (((idle config).run before).runSession id actions).client? id = some client ∧
      Output ((idle config).run before) id actions client := by
  obtain ⟨connection, found, attendsOpened⟩ := attends_opened config before starts
  obtain ⟨client, attends, followsAll⟩ := attendsOpened.run patient spared prompt
  have reached := attends.serves.client?_eq
  refine ⟨client, reached, attends.frames, attends.ended, ?_, ?_, ?_, ?_, ?_, ?_⟩
  · intro opening foundOpening silent frame written
    cases found.symm.trans foundOpening
    have regular := regular_run_idle config before found
    have ahead := followsAll.ahead
    rw [ahead_opened regular silent] at ahead
    exact attends.head?_written ahead written
  · rintro earlier later middle rfl met
    obtain ⟨-, follows⟩ := attendsOpened.passes patient spared prompt met reached
    exact ⟨follows.ahead, follows.eventLine⟩
  · rintro earlier action later first after payload rfl met becomes uncancelled quiet taken
    obtain ⟨attendsFirst, -⟩ := attendsOpened.passes patient spared prompt met reached
    obtain ⟨spares, sparesSink⟩ := (spared_append.1 spared).2 action List.mem_cons_self
    rw [runSession_append] at becomes
    exact attendsFirst.controlFirst patient spares sparesSink (prompt_append.1 prompt).2.1
      becomes uncancelled quiet taken
  · rintro earlier later middle rfl cancels isOver
    obtain ⟨-, follows⟩ := attendsOpened.passes patient spared prompt cancels.found reached
    have heeds := attendsOpened.heeds_of_cancels rfl patient (spared_append.1 spared).1
      (prompt_append.1 prompt).1 cancels
    have flushes : middle.Flushes middle.ahead middle.queue :=
      .controls [] (fun _ absent => nomatch absent) heeds (List.append_nil _).symm rfl
    obtain ⟨extra, messages, texts⟩ :=
      (follows.flushes cancels.cancelled _ _ flushes).of_over attends.orderly isOver
    refine ⟨extra, messages, texts.trans ?_⟩
    rw [Client.ahead, if_pos heeds]
  · intro cancelled
    obtain ⟨last, attendsLast, isOver⟩ :=
      attends.isOver_replicate patient cancelled (Nat.le_refl client.stepsLeft)
    refine ⟨client.stepsLeft, last, ?_, isOver⟩
    rw [runSession_append]
    exact attendsLast.serves.client?_eq
  · intro cancelled idle
    exact attends.isSome_ended? cancelled (idle _ (by simp)) (idle _ (by simp)) (idle _ (by simp))

/-- A client is welcomed, left in peace for a while, and leaves. -/
def visit : List Action :=
  [.work (.send "c"), .work (.send "c"), .work (.send "c"), .passTime 1 1, .receive "c" .close,
    .work (.receive "c"), .work (.supervise "c"), .work (.send "c"), .work (.send "c"),
    .work (.send "c"), .work (.send "c"), .work (.supervise "c")]

theorem session_output_visit :
    ∃ client,
      (((idle {}).run [.hub (.register "c" { subject := "s" } 1)]).runSession "c" visit).client?
          "c" = some client ∧
        Output ((idle {}).run [.hub (.register "c" { subject := "s" } 1)]) "c" visit client :=
  session_output {} [.hub (.register "c" { subject := "s" } 1)] visit "c" (by decide) (by decide)
    (by simp [Spared, visit, Action.spares, Action.sparesSink])
    ⟨nofun, nofun, nofun, fun _ _ _ => rfl, nofun, nofun, nofun, nofun, nofun, nofun, nofun, nofun,
      trivial⟩

end EventHub.LiveHub
