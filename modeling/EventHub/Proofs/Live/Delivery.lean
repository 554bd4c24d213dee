import EventHub.Proofs.Hub.Offer
import EventHub.Proofs.Live.Action

/-!
Delivery from end to end. What a client has got, has on its way and has waiting in its buffer is,
in this order, a selection of the routed events that it wanted when they were routed; and the
router takes queued events in the order of their publication.
-/

namespace EventHub

def ClientFrame.isEvent : ClientFrame → Bool
  | .text content => isEventText content
  | _ => false

namespace LiveHub

def routings : LiveHub → List Action → List Routing
  | _, [] => []
  | live, action :: rest => (live.routing? action).toList ++ routings (live.act action) rest

/-- The connection holds a subscription that the event matches as it is routed. -/
def Routing.reaches (routing : Routing) (id : ConnectionId) : Bool :=
  (routing.hub.index.filter? id routing.event.eventType).any (·.accepts routing.event.cluster)

/-- The events of a run for one connection, as texts. -/
def wanted (id : ConnectionId) (log : List Routing) : List Payload :=
  (log.filter fun routing => routing.reaches id).map fun routing => routing.event.toPayload

def trail (live : LiveHub) (id : ConnectionId) : List Payload :=
  (live.sessions.get? id).elim (live.hub.standing id).queue fun session => session.trail live.hub

variable {live next : LiveHub} {id : ConnectionId} {log : List Routing}

/-- How far the events of one connection have come after some routings. -/
structure Delivery (id : ConnectionId) (log : List Routing) (live : LiveHub) : Prop where
  wellFormed : live.hub.WellFormed
  named : ∀ session, live.sessions.get? id = some session → session.id = id
  controls : Untagged (live.hub.standing id).controls
  inHand : ∀ session, live.sessions.get? id = some session → Untagged session.controlInHand
  trail : (live.trail id).Sublist (wanted id log)

theorem delivery_idle (config : HubConfig) (id : ConnectionId) : Delivery id [] (idle config) where
  wellFormed := Hub.wellFormed_ofConfig config
  named := fun _ absent => nomatch absent
  controls := fun _ absent => nomatch absent
  inHand := fun _ absent => nomatch absent
  trail := List.nil_sublist _

/-- What an action that routes nothing makes of a connection's session. -/
inductive SessionStep (id : ConnectionId) (live next : LiveHub) : Prop where
  | unchanged (same : next.sessions.get? id = live.sessions.get? id)
  | started (sink : Sink) (fresh : sink.written = [])
      (known : (live.hub.get? id).isSome = true)
      (starts : next.sessions.get? id = some { id, sink })
  | passed (session after : Session) (was : live.sessions.get? id = some session)
      (becomes : next.sessions.get? id = some after)
      (passes : session.Passes live.hub next.hub after)

theorem queue_sublist_trail
    (named : ∀ session, live.sessions.get? id = some session → session.id = id) :
    (live.hub.standing id).queue.Sublist (live.trail id) := by
  rw [trail]
  cases found : live.sessions.get? id with
  | none => exact .refl _
  | some session =>
      rw [Option.elim_some, Session.trail, named session found]
      exact List.sublist_append_right _ _

theorem SessionStep.trail (step : SessionStep id live next) (delivery : Delivery id log live)
    (proceeds : live.hub.Proceeds next.hub) : (next.trail id).Sublist (live.trail id) := by
  have queue := (proceeds.dwindles delivery.wellFormed id).queue.sublist
  cases step with
  | unchanged same =>
      rw [LiveHub.trail, LiveHub.trail, same]
      cases found : live.sessions.get? id with
      | none => exact queue
      | some session =>
          rw [Option.elim_some, Option.elim_some, Session.trail, Session.trail,
            delivery.named session found]
          exact queue.append_left _
  | started sink fresh known starts =>
      have unspoken : ({ id, sink } : Session).trail next.hub = (next.hub.standing id).queue := by
        simp [Session.trail, Session.spoken, Session.inHand, SendPhase.message?, fresh]
      rw [LiveHub.trail, starts, Option.elim_some, unspoken]
      exact queue.trans (queue_sublist_trail delivery.named)
  | passed session after was becomes passes =>
      rw [LiveHub.trail, LiveHub.trail, was, becomes]
      exact passes.trail (delivery.inHand session was)

theorem SessionStep.session (step : SessionStep id live next) (delivery : Delivery id log live)
    {session : Session} (found : next.sessions.get? id = some session) :
    session.id = id ∧ Untagged session.controlInHand := by
  cases step with
  | unchanged same =>
      rw [same] at found
      exact ⟨delivery.named session found, delivery.inHand session found⟩
  | started sink fresh known starts =>
      cases starts.symm.trans found
      exact ⟨rfl, fun _ absent => nomatch absent⟩
  | passed before after was becomes passes =>
      cases becomes.symm.trans found
      have named := delivery.named before was
      refine ⟨passes.id.trans named, ?_⟩
      intro payload held
      rcases passes.controls payload held with earlier | queued
      · exact delivery.inHand before was payload earlier
      · rw [named] at queued
        exact delivery.controls payload queued

theorem Delivery.of_step (delivery : Delivery id log live)
    (proceeds : live.hub.Proceeds next.hub) (step : SessionStep id live next) :
    Delivery id log next where
  wellFormed := proceeds.wellFormed delivery.wellFormed
  named := fun _ found => (step.session delivery found).1
  controls := by
    intro payload waiting
    rcases (proceeds.dwindles delivery.wellFormed id).controls payload waiting with
      earlier | ⟨message, rfl⟩
    · exact delivery.controls payload earlier
    · exact message.isEventText_toPayload
  inHand := fun _ found => (step.session delivery found).2
  trail := (step.trail delivery proceeds).trans delivery.trail

theorem SessionStep.of_insert {key : ConnectionId} {session after : Session}
    (found : live.sessions.get? key = some session)
    (inserts : next.sessions = live.sessions.insert key after)
    (passes : session.Passes live.hub next.hub after) : SessionStep id live next := by
  by_cases own : id = key
  · subst own
    refine .passed session after found ?_ passes
    rw [inserts, Table.get?_insert, if_pos rfl]
  · refine .unchanged ?_
    rw [inserts, Table.get?_insert, if_neg own]

theorem sessionStep_taskStep (wellFormed : live.hub.WellFormed) {task : Task}
    (quiet : task ≠ .route) (steps : live.taskStep task = some next) :
    SessionStep id live next := by
  cases task with
  | send key =>
      obtain ⟨session, hub, after, found, stepped, rfl⟩ := settleStep_eq_some steps
      exact .of_insert found rfl (Session.passes_sendStep wellFormed stepped)
  | receive key =>
      obtain ⟨session, hub, after, found, stepped, rfl⟩ := settleStep_eq_some steps
      exact .of_insert found rfl (Session.passes_receiveStep wellFormed stepped)
  | supervise key =>
      obtain ⟨session, hub, after, found, stepped, rfl⟩ := settleStep_eq_some steps
      exact .of_insert found rfl (Session.passes_superviseStep wellFormed stepped)
  | close key => exact .unchanged (by rw [(finishStep_eq_some steps).2.1])
  | route => exact absurd rfl quiet
  | monitor => exact .unchanged (by rw [(monitorStep_eq_some steps).2.1])

theorem sessionStep_startSession (wellFormed : live.hub.WellFormed) (key : ConnectionId)
    (failAfter stallAfter : Option Nat) :
    SessionStep id live (live.startSession key { failAfter, stallAfter }).1 := by
  cases starts : Session.start live.hub key { failAfter, stallAfter } with
  | none =>
      rw [startSession_eq_none starts]
      exact .unchanged rfl
  | some started =>
      obtain ⟨hub, session⟩ := started
      have known := Session.known_of_start starts
      obtain ⟨-, rfl⟩ := Session.proceeds_start wellFormed starts
      rw [startSession_eq_some starts]
      by_cases own : id = key
      · subst own
        refine .started { failAfter, stallAfter } rfl known ?_
        rw [Table.get?_insert, if_pos rfl]
      · refine .unchanged ?_
        rw [Table.get?_insert, if_neg own]

theorem sessionStep_receive (wellFormed : live.hub.WellFormed) (key : ConnectionId)
    (frame : Inbound) : SessionStep id live (live.receive key frame).1 := by
  rw [LiveHub.receive]
  split
  · rename_i session found
    split
    · exact .of_insert found rfl (.of_same wellFormed (.refl live.hub) rfl rfl rfl)
    · exact .unchanged rfl
  · exact .unchanged rfl

theorem sessionStep_limitSink (wellFormed : live.hub.WellFormed) (key : ConnectionId)
    (failAfter stallAfter : Option Nat) :
    SessionStep id live (live.act (.limitSink key failAfter stallAfter)) := by
  by_cases own : id = key
  · subst own
    cases found : live.sessions.get? id with
    | none =>
        refine .unchanged ?_
        simp [act, modifySink, found]
    | some session =>
        refine .passed session
          { session with sink := { session.sink with failAfter, stallAfter } } found ?_ ?_
        · simp [act, modifySink, found]
        · exact .of_same wellFormed (.refl live.hub) rfl rfl rfl
  · refine .unchanged ?_
    simp [act, modifySink, own]

theorem sessionStep_act (wellFormed : live.hub.WellFormed) {action : Action}
    (quiet : live.routing? action = none) : SessionStep id live (live.act action) := by
  cases action with
  | hub operation => exact .unchanged rfl
  | publish event =>
      refine .unchanged ?_
      simp only [act, publish]
      split <;> rfl
  | routeNext =>
      simp only [act, routeNext_of_none quiet]
      exact .unchanged rfl
  | closeIngest => exact .unchanged rfl
  | startSession key failAfter stallAfter =>
      exact sessionStep_startSession wellFormed key failAfter stallAfter
  | receive key frame => exact sessionStep_receive wellFormed key frame
  | limitSink key failAfter stallAfter =>
      exact sessionStep_limitSink wellFormed key failAfter stallAfter
  | beginClose key reason =>
      rcases act_beginClose live key reason with idle | begun
      · rw [idle]
        exact .unchanged rfl
      · exact .unchanged (by rw [(beginClose?_eq_some begun).2.1])
  | passTime clock wallClock => exact .unchanged rfl
  | setRouting running => exact .unchanged rfl
  | setMonitor phase => exact .unchanged rfl
  | work task =>
      by_cases isRoute : task = .route
      · subst isRoute
        rw [act_route_of_none quiet]
        exact .unchanged rfl
      · rcases act_work live task with idle | steps
        · rw [idle]
          exact .unchanged rfl
        · exact sessionStep_taskStep wellFormed isRoute steps

/-- A routed event that the connection wants is the last of its trail. -/
theorem trail_of_routing {action : Action} {routing : Routing}
    (named : ∀ session, live.sessions.get? id = some session → session.id = id)
    (wellFormed : live.hub.WellFormed) (routed : live.routing? action = some routing) :
    ((live.act action).trail id).Sublist (live.trail id ++ wanted id [routing]) := by
  obtain ⟨hub_eq, hub, sessions⟩ := act_of_routing routed
  have standing : (live.act action).hub.standing id =
      (live.hub.standing id).offer routing.event := by
    rw [hub, (Hub.effect_route wellFormed routing.event).standing]
  have queue : ((live.act action).hub.standing id).queue.Sublist
      ((live.hub.standing id).queue ++ wanted id [routing]) := by
    rw [standing]
    have reaches_eq : routing.reaches id = (live.hub.standing id).holding.wants routing.event := by
      rw [Routing.reaches, hub_eq]
      rfl
    by_cases taken : (live.hub.standing id).registered = true ∧
        (live.hub.standing id).isOpen = true ∧
        (live.hub.standing id).holding.wants routing.event = true
    · obtain ⟨registered, opened, wants⟩ := taken
      obtain ⟨connection, found, accepting⟩ := (Option.any_eq_true _ _).1 opened
      have isWanted : wanted id [routing] = [routing.event.toPayload] := by
        simp [wanted, reaches_eq, wants]
      rw [isWanted, Standing.queue, Standing.offer_of_taken found registered accepting wants,
        Standing.queue, found, Option.elim_some, Option.elim_some, Buffer.queue_enqueue]
      exact (connection.buffer.queue_makeRoom_suffix.sublist).append_right _
    · rw [Standing.offer_of_ignored taken]
      exact List.sublist_append_left _ _
  -- Routing touches no session, so what is ahead of the buffer stays as it is.
  rw [trail, trail, sessions]
  cases found : live.sessions.get? id with
  | none => exact queue
  | some session =>
      rw [Option.elim_some, Option.elim_some, Session.trail, Session.trail, named session found,
        List.append_assoc _ (live.hub.standing id).queue]
      exact queue.append_left _

theorem Delivery.routed (delivery : Delivery id log live) {action : Action} {routing : Routing}
    (routed : live.routing? action = some routing) :
    Delivery id (log ++ [routing]) (live.act action) := by
  obtain ⟨-, hub, sessions⟩ := act_of_routing routed
  have effect := Hub.effect_route delivery.wellFormed routing.event
  refine ⟨?_, ?_, ?_, ?_, ?_⟩
  · rw [hub]
    exact effect.wellFormed
  · rw [sessions]
    exact delivery.named
  · rw [hub, effect.standing, Standing.controls_offer]
    exact delivery.controls
  · rw [sessions]
    exact delivery.inHand
  · have extends_eq : wanted id (log ++ [routing]) = wanted id log ++ wanted id [routing] := by
      simp [wanted]
    rw [extends_eq]
    exact (trail_of_routing delivery.named delivery.wellFormed routed).trans
      (delivery.trail.append_right _)

theorem Delivery.run (delivery : Delivery id log live) (actions : List Action) :
    Delivery id (log ++ live.routings actions) (live.run actions) := by
  induction actions generalizing live log with
  | nil =>
      rw [routings, List.append_nil]
      exact delivery
  | cons action rest ih =>
      rw [routings, run_cons, ← List.append_assoc]
      apply ih
      cases routed : live.routing? action with
      | none =>
          rw [Option.toList_none, List.append_nil]
          exact delivery.of_step (proceeds_act delivery.wellFormed routed)
            (sessionStep_act delivery.wellFormed routed)
      | some routing => exact delivery.routed routed

/-! What the client has got of its trail. -/

def spoken (live : LiveHub) (id : ConnectionId) : List Payload :=
  (live.sessions.get? id).elim [] Session.spoken

theorem spoken_sublist_trail (live : LiveHub) (id : ConnectionId) :
    (live.spoken id).Sublist (live.trail id) := by
  rw [spoken, trail]
  cases live.sessions.get? id with
  | none => exact List.nil_sublist _
  | some session =>
      rw [Option.elim_some, Option.elim_some, Session.trail, List.append_assoc]
      exact List.sublist_append_left _ _

theorem filter_frames (written : List Outbound) :
    (written.filterMap Outbound.frame?).filter ClientFrame.isEvent =
      (written.filterMap Outbound.eventText?).map Frame.text := by
  induction written with
  | nil => rfl
  | cons frame rest ih =>
      cases frame with
      | text payload =>
          cases isEvent : isEventText payload with
          | true => simp [Outbound.frame?, Outbound.eventText?, ClientFrame.isEvent, isEvent, ih]
          | false => simp [Outbound.frame?, Outbound.eventText?, ClientFrame.isEvent, isEvent, ih]
      | close reason => exact ih
      | finished => exact ih

theorem filter_writtenFrames (live : LiveHub) (id : ConnectionId) :
    (live.writtenFrames id).1.filter ClientFrame.isEvent =
      (live.spoken id).map Frame.text := by
  rw [writtenFrames, spoken]
  cases live.sessions.get? id with
  | none => rfl
  | some session => exact filter_frames session.sink.written

/-! The ingest queue. -/

def queuedEvents (log : List Routing) : List Event :=
  (log.filter fun routing => routing.queued).map fun routing => routing.event

/-- The event that an action gets into the ingest queue. -/
def accepted? (live : LiveHub) : Action → Option Event
  | .publish event => (live.ingest.publish event).toOption.map fun _ => event
  | _ => none

def published : LiveHub → List Action → List Event
  | _, [] => []
  | live, action :: rest => (live.accepted? action).toList ++ published (live.act action) rest

/-- What was routed from the queue and what waits in it is, in order, what was published; closing
the queue drops what waits. -/
structure InOrder (routed published : List Event) (queue : IngestQueue) : Prop where
  isPrefix : routed ++ queue.waiting <+: published
  complete : queue.isOpen = true → routed ++ queue.waiting = published

variable {routed accepted : List Event}

theorem inOrder_publish (inOrder : InOrder routed accepted live.ingest) (event : Event) :
    InOrder routed (accepted ++ (live.accepted? (.publish event)).toList)
      (live.publish event).1.ingest := by
  rw [publish, accepted?]
  cases publishes : live.ingest.publish event with
  | error cause =>
      rw [Except.toOption, Option.map_none, Option.toList_none, List.append_nil]
      exact inOrder
  | ok ingest =>
      rw [Except.toOption, Option.map_some, Option.toList_some]
      simp only [IngestQueue.publish] at publishes
      split at publishes
      · cases publishes
      · rename_i opened
        split at publishes
        · cases publishes
          have complete := inOrder.complete (by simpa using opened)
          have extended : routed ++ (live.ingest.waiting ++ [event]) = accepted ++ [event] := by
            rw [← List.append_assoc, complete]
          exact ⟨extended ▸ List.prefix_refl _, fun _ => extended⟩
        · cases publishes

theorem inOrder_routeNext (inOrder : InOrder routed accepted live.ingest) :
    InOrder (routed ++ queuedEvents live.nextRouting?.toList) accepted live.routeNext.ingest := by
  rw [routeNext, nextRouting?]
  cases taken : live.ingest.next? with
  | none =>
      rw [Option.map_none, Option.toList_none, queuedEvents, List.filter_nil, List.map_nil,
        List.append_nil]
      exact inOrder
  | some head =>
      obtain ⟨event, rest⟩ := head
      simp only [IngestQueue.next?] at taken
      split at taken
      · cases taken
      · rename_i first waiting queued
        cases taken
        have same : routed ++ [event] ++ waiting = routed ++ live.ingest.waiting := by
          rw [queued, List.append_assoc, List.singleton_append]
        refine ⟨?_, ?_⟩
        · simpa [queuedEvents, same] using inOrder.isPrefix
        · intro opened
          simpa [queuedEvents, same] using inOrder.complete opened

theorem ingest_taskStep {task : Task} (quiet : task ≠ .route)
    (steps : live.taskStep task = some next) : next.ingest = live.ingest := by
  cases task with
  | send id =>
      obtain ⟨session, hub, after, -, -, rfl⟩ := settleStep_eq_some steps
      rfl
  | receive id =>
      obtain ⟨session, hub, after, -, -, rfl⟩ := settleStep_eq_some steps
      rfl
  | supervise id =>
      obtain ⟨session, hub, after, -, -, rfl⟩ := settleStep_eq_some steps
      rfl
  | close id => exact (finishStep_eq_some steps).2.2
  | route => exact absurd rfl quiet
  | monitor => exact (monitorStep_eq_some steps).2.2

theorem InOrder.of_same (inOrder : InOrder routed accepted live.ingest) {action : Action}
    (unrouted : queuedEvents (live.routing? action).toList = [])
    (unpublished : live.accepted? action = none)
    (ingest : (live.act action).ingest = live.ingest) :
    InOrder (routed ++ queuedEvents (live.routing? action).toList)
      (accepted ++ (live.accepted? action).toList) (live.act action).ingest := by
  rw [unrouted, unpublished, ingest, Option.toList_none, List.append_nil, List.append_nil]
  exact inOrder

theorem InOrder.act (inOrder : InOrder routed accepted live.ingest) (action : Action) :
    InOrder (routed ++ queuedEvents (live.routing? action).toList)
      (accepted ++ (live.accepted? action).toList) (live.act action).ingest := by
  cases action with
  | hub operation =>
      refine inOrder.of_same ?_ rfl rfl
      cases operation with
      | route event => rfl
      | _ => rfl
  | publish event =>
      have unrouted : queuedEvents (live.routing? (.publish event)).toList = [] := rfl
      rw [unrouted, List.append_nil]
      exact inOrder_publish inOrder event
  | routeNext =>
      have unpublished : (live.accepted? .routeNext).toList = [] := rfl
      rw [unpublished, List.append_nil]
      exact inOrder_routeNext inOrder
  | closeIngest =>
      have shorter : routed <+: accepted := (List.prefix_append _ _).trans inOrder.isPrefix
      have emptied : (live.act .closeIngest).ingest.waiting = [] := rfl
      constructor
      · rw [emptied]
        simpa [routing?, accepted?, queuedEvents] using shorter
      · intro opened
        cases opened
  | startSession id failAfter stallAfter =>
      refine inOrder.of_same rfl rfl ?_
      simp only [LiveHub.act, startSession]
      split <;> rfl
  | receive id frame =>
      refine inOrder.of_same rfl rfl ?_
      simp only [LiveHub.act, receive]
      split
      · split <;> rfl
      · rfl
  | limitSink id failAfter stallAfter => exact inOrder.of_same rfl rfl rfl
  | beginClose id reason =>
      refine inOrder.of_same rfl rfl ?_
      rcases act_beginClose live id reason with idle | begun
      · rw [idle]
      · exact (beginClose?_eq_some begun).2.2
  | passTime clock wallClock => exact inOrder.of_same rfl rfl rfl
  | setRouting running => exact inOrder.of_same rfl rfl rfl
  | setMonitor phase => exact inOrder.of_same rfl rfl rfl
  | work task =>
      by_cases isRoute : task = .route
      · subst isRoute
        have unpublished : (live.accepted? (.work .route)).toList = [] := rfl
        rw [unpublished, List.append_nil]
        simp only [LiveHub.act, taskStep, routeStep_getD, routing?]
        split
        · exact inOrder_routeNext inOrder
        · rw [Option.toList_none, queuedEvents, List.filter_nil, List.map_nil, List.append_nil]
          exact inOrder
      · have unrouted : live.routing? (.work task) = none := by
          cases task with
          | route => exact absurd rfl isRoute
          | _ => rfl
        refine inOrder.of_same (by rw [unrouted]; rfl) rfl ?_
        rcases act_work live task with idle | steps
        · rw [idle]
        · exact ingest_taskStep isRoute steps

theorem InOrder.run (inOrder : InOrder routed accepted live.ingest) (actions : List Action) :
    InOrder (routed ++ queuedEvents (live.routings actions))
      (accepted ++ live.published actions) (live.run actions).ingest := by
  induction actions generalizing live routed accepted with
  | nil => simpa [routings, published, queuedEvents] using inOrder
  | cons action rest ih =>
      have later := ih (inOrder.act action)
      have queued_eq : queuedEvents (live.routings (action :: rest)) =
          queuedEvents (live.routing? action).toList ++
            queuedEvents ((live.act action).routings rest) := by
        rw [routings, queuedEvents, List.filter_append, List.map_append]
        rfl
      rw [queued_eq, published, ← List.append_assoc, ← List.append_assoc]
      exact later

/-- The event frames that a client has got are those of a selection of the routed events, in the
order of routing, each of which matched a subscription of the connection when it was routed; and
events from the queue are routed in the order of publication. -/
theorem delivered_in_order (config : HubConfig) (actions : List Action) (id : ConnectionId) :
    (∃ picked : List Routing,
      picked.Sublist ((idle config).routings actions) ∧
        (∀ routing ∈ picked, routing.reaches id = true) ∧
        (((idle config).run actions).writtenFrames id).1.filter ClientFrame.isEvent =
          picked.map fun routing => .text routing.event.toPayload) ∧
      queuedEvents ((idle config).routings actions) <+: (idle config).published actions := by
  constructor
  · have delivery := (delivery_idle config id).run actions
    rw [List.nil_append] at delivery
    obtain ⟨picked, selected, texts⟩ := List.sublist_map_iff.1
      ((spoken_sublist_trail _ id).trans delivery.trail)
    refine ⟨picked, selected.trans List.filter_sublist, ?_, ?_⟩
    · intro routing member
      exact (List.mem_filter.1 (selected.subset member)).2
    · rw [filter_writtenFrames, texts, List.map_map]
      rfl
  · have inOrder : InOrder [] [] (idle config).ingest := ⟨List.prefix_refl _, fun _ => rfl⟩
    have ordered := inOrder.run actions
    rw [List.nil_append, List.nil_append] at ordered
    exact (List.prefix_append _ _).trans ordered.isPrefix

end LiveHub

end EventHub
