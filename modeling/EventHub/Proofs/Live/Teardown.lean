import EventHub.Proofs.Live.Lifecycle
import EventHub.Proofs.Live.Membership
import Mathlib.Data.List.Induction

/-!
What a session leaves behind when it is over. Whatever ended its loops, and whoever closes the
connection at the same time, the connection is out of the hub by then, and no second session can be
had on it.
-/

namespace EventHub

namespace Hub

/-- Nothing is left of a connection but its own record, on which a session has come to its end. -/
structure Gone (hub : Hub) (id : ConnectionId) : Prop where
  unregistered : hub.isRegistered id = false
  unreferenced : hub.index.references id = false
  refuses : ∀ events clusters,
    hub.subscribe id events clusters = (hub, .error (.connectionNotFound id))
  record : ∃ connection, hub.get? id = some connection ∧ connection.isOpen = false ∧
    connection.finished = true ∧ ∀ payload, connection.enqueue? payload = none

variable {hub next : Hub} {id : ConnectionId} {connection : Connection}

theorem subscribe_of_not_isOpen (found : hub.get? id = some connection)
    (closing : connection.isOpen = false) (events : List EventType) (clusters : List String) :
    hub.subscribe id events clusters = (hub, .error (.connectionNotFound id)) := by
  have refused : hub.admitSubscribe id clusters = .error (.connectionNotFound id) := by
    rw [admitSubscribe, found]
    simp [closing]
  rw [subscribe, refused]

theorem Sound.gone (sound : hub.Sound) (unregistered : hub.isRegistered id = false)
    (found : hub.get? id = some connection) (finished : connection.finished = true) :
    hub.Gone id := by
  have closing : connection.isOpen = false := by
    rw [Bool.eq_false_iff]
    intro opened
    have isOpen : (hub.standing id).isOpen = true := by
      have present : (hub.standing id).connection = some connection := found
      rw [Standing.isOpen, present]
      exact opened
    cases unregistered.symm.trans ((sound.standing id).registered_of_isOpen isOpen)
  exact ⟨unregistered, sound.not_references unregistered,
    subscribe_of_not_isOpen found closing,
    connection, found, closing, finished, fun _ => Connection.enqueue?_eq_none_iff.2 closing⟩

theorem unregistered_close (wellFormed : hub.WellFormed) (id : ConnectionId)
    (reason : CloseReason) : (hub.close id reason).1.isRegistered id = false := by
  have closed := congrArg Standing.registered ((effect_close wellFormed id reason).standing id)
  rw [Standing.onlyAt_self, Standing.close] at closed
  refine closed.trans ?_
  split
  · rename_i registered
    rw [Standing.leave, if_pos registered]
    rfl
  · rename_i unregistered
    exact Bool.eq_false_iff.2 unregistered

theorem graceFor_of_finished (found : hub.get? id = some connection)
    (finished : connection.finished = true) : hub.graceFor id = 0 := by
  rw [graceFor, found]
  simp [Connection.settled, finished]

theorem Handles.goesOn {calls : List CloseCall} (handles : Handles id hub calls next)
    (found : hub.get? id = some connection) :
    ∃ later deeds answers, next.get? id = some later ∧ connection.Lives deeds answers later := by
  have present : (hub.standing id).connection = some connection := found
  cases handles.lives with
  | absent unknown _ _ => cases unknown.symm.trans present
  | comes unknown _ _ => cases unknown.symm.trans present
  | goesOn known becomes lives =>
      cases known.symm.trans present
      exact ⟨_, _, _, becomes, lives⟩

theorem Handles.finished {calls : List CloseCall} (handles : Handles id hub calls next)
    (found : hub.get? id = some connection) (finished : connection.finished = true) :
    ∃ later, next.get? id = some later ∧ later.finished = true := by
  obtain ⟨later, deeds, answers, becomes, lives⟩ := handles.goesOn found
  exact ⟨later, becomes, lives.finished finished⟩

theorem Handles.claimed {calls : List CloseCall} (handles : Handles id hub calls next)
    (found : hub.get? id = some connection) (claimed : connection.control.reader ≠ .waiting) :
    ∃ later, next.get? id = some later ∧ later.control.reader ≠ .waiting := by
  obtain ⟨later, deeds, answers, becomes, lives⟩ := handles.goesOn found
  exact ⟨later, becomes, lives.claimed claimed⟩

end Hub

namespace LiveHub

/-- The step that ends the session of a connection. Its close waits for nobody, and others do not
notice. -/
structure Finale (live : LiveHub) (id : ConnectionId) (reason : CloseReason) (next : LiveHub) :
    Prop where
  closes : ∃ calls middle, Hub.Chores id live.hub calls middle ∧
    (∃ connection, middle.get? id = some connection ∧ connection.finished = true) ∧
    middle.graceFor id = 0 ∧ (middle.close id reason).1 = next.hub
  clock : next.clock = live.clock
  closings : next.closings = live.closings
  others : ∀ other, other ≠ id → next.hub.standing other = live.hub.standing other

variable {live next : LiveHub} {id : ConnectionId} {action : Action} {session after : Session}
  {reason : CloseReason} {log : List CloseCall}

theorem Finale.departed (finale : live.Finale id reason next) (wellFormed : live.hub.WellFormed) :
    next.hub.isRegistered id = false ∧
      ∃ connection, next.hub.get? id = some connection ∧ connection.finished = true := by
  obtain ⟨calls, middle, chores, ⟨connection, found, finished⟩, -, closes⟩ := finale.closes
  have middleFormed := chores.wellFormed wellFormed
  rw [← closes]
  exact ⟨Hub.unregistered_close middleFormed id reason,
    (Hub.handles_close middleFormed id reason).finished found finished⟩

/-! A session ends in one step of its supervisor. -/

theorem supervise_sendStep {now : Instant} {hub changed : Hub} (wellFormed : hub.WellFormed)
    (steps : session.sendStep now hub = some (changed, after)) :
    after.supervise = session.supervise := by
  cases found : hub.get? session.id with
  | none =>
      rw [Session.sendStep, found] at steps
      cases steps
  | some connection =>
      obtain ⟨last, -, move⟩ := Session.moves_sendStep wellFormed found steps
      cases move <;> rfl

theorem supervise_receiveStep {now : Instant} {hub changed : Hub} (wellFormed : hub.WellFormed)
    (steps : session.receiveStep now hub = some (changed, after)) :
    after.supervise = session.supervise := by
  cases found : hub.get? session.id with
  | none =>
      rw [Session.receiveStep, found] at steps
      cases receive : session.receive <;> simp [receive] at steps
  | some connection =>
      obtain ⟨last, -, move⟩ := Session.moves_receiveStep wellFormed found steps
      cases move <;> rfl

/-- Where the session that a connection has after an action comes from. -/
inductive Origin (live : LiveHub) (id : ConnectionId) (action : Action) (after : Session) :
    Prop where
  | kept {session : Session} (was : live.sessions.get? id = some session)
      (same : after.supervise = session.supervise)
  | started {sink : Sink} {hub : Hub} (starts : Session.start live.hub id sink = some (hub, after))
      (becomes : (live.act action).hub = hub)
  | supervised {session : Session} {hub : Hub} (isStep : action = .work (.supervise id))
      (was : live.sessions.get? id = some session)
      (steps : session.superviseStep live.clock live.hub = some (hub, after))
      (becomes : live.act action = { live with hub, sessions := live.sessions.insert id after })

theorem Origin.of_same {sessions : Table ConnectionId Session} (same : sessions = live.sessions)
    (found : sessions.get? id = some after) : live.Origin id action after :=
  .kept (same ▸ found) rfl

theorem Origin.of_insert {key : ConnectionId} {stepped : Session}
    (was : live.sessions.get? key = some session)
    (same : stepped.supervise = session.supervise)
    (found : (live.sessions.insert key stepped).get? id = some after) :
    live.Origin id action after := by
  rw [Table.get?_insert] at found
  split at found
  · rename_i own
    cases found
    exact .kept (own ▸ was) same
  · exact .kept found rfl

theorem origin_taskStep (wellFormed : live.hub.WellFormed) {task : Task}
    (unrouted : task ≠ .route) (steps : live.taskStep task = some (live.act (.work task)))
    (found : (live.act (.work task)).sessions.get? id = some after) :
    live.Origin id (.work task) after := by
  cases task with
  | send key =>
      obtain ⟨session, hub, stepped, served, moves, becomes⟩ := settleStep_eq_some steps
      rw [becomes] at found
      exact .of_insert served (supervise_sendStep wellFormed moves) found
  | receive key =>
      obtain ⟨session, hub, stepped, served, moves, becomes⟩ := settleStep_eq_some steps
      rw [becomes] at found
      exact .of_insert served (supervise_receiveStep wellFormed moves) found
  | supervise key =>
      obtain ⟨session, hub, stepped, served, moves, becomes⟩ := settleStep_eq_some steps
      rw [becomes, Table.get?_insert] at found
      split at found
      · rename_i own
        subst own
        cases found
        exact .supervised rfl served moves becomes
      · exact .kept found rfl
  | close key => exact .of_same (finishStep_eq_some steps).2.1 found
  | route => exact absurd rfl unrouted
  | monitor => exact .of_same (monitorStep_eq_some steps).2.1 found

theorem origin_startSession (key : ConnectionId) (failAfter stallAfter : Option Nat)
    (found : (live.act (.startSession key failAfter stallAfter)).sessions.get? id = some after) :
    live.Origin id (.startSession key failAfter stallAfter) after := by
  cases starts : Session.start live.hub key { failAfter, stallAfter } with
  | none => exact .of_same (congrArg sessions (startSession_eq_none starts)) found
  | some started =>
      have becomes : live.act (.startSession key failAfter stallAfter) = _ :=
        startSession_eq_some starts
      rw [becomes, Table.get?_insert] at found
      split at found
      · rename_i own
        subst own
        cases found
        exact .started starts (by rw [becomes])
      · exact .kept found rfl

theorem origin_act (wellFormed : live.hub.WellFormed)
    (found : (live.act action).sessions.get? id = some after) : live.Origin id action after := by
  cases routed : live.routing? action with
  | some routing => exact .of_same (act_of_routing routed).2.2 found
  | none =>
      cases action with
      | hub _ | closeIngest | passTime _ _ | setRouting _ | setMonitor _ => exact .kept found rfl
      | routeNext => exact .of_same (congrArg sessions (routeNext_of_none routed)) found
      | publish event =>
          simp only [act, publish] at found
          split at found <;> exact .kept found rfl
      | startSession key failAfter stallAfter => exact origin_startSession key _ _ found
      | receive key frame =>
          simp only [act, receive] at found
          split at found
          · rename_i session served
            split at found
            · refine .of_insert served ?_ found
              rfl
            · exact .kept found rfl
          · exact .kept found rfl
      | limitSink key failAfter stallAfter =>
          simp only [act, modifySink, Table.get?_update] at found
          split at found
          · obtain ⟨session, served, rfl⟩ := Option.map_eq_some_iff.1 found
            exact .kept served rfl
          · exact .kept found rfl
      | beginClose key asked =>
          rcases act_beginClose live key asked with idle | begun
          · exact .of_same (congrArg sessions idle) found
          · exact .of_same (beginClose?_eq_some begun).2.1 found
      | work task =>
          rcases act_work live task with idle | steps
          · exact .of_same (congrArg sessions idle) found
          · by_cases isRoute : task = .route
            · subst isRoute
              exact .of_same (congrArg sessions (act_route_of_none routed)) found
            · exact origin_taskStep wellFormed isRoute steps found

theorem ended_act (staffed : live.Staffed)
    (found : (live.act action).sessions.get? id = some after)
    (ended : after.ended? = some reason) :
    (∃ session, live.sessions.get? id = some session ∧ session.ended? = some reason) ∨
      action = .work (.supervise id) ∧ live.Finale id reason (live.act action) := by
  cases origin_act staffed.wellFormed found with
  | kept was same =>
      rw [Session.ended?, same] at ended
      exact .inl ⟨_, was, ended⟩
  | started starts _ =>
      rw [(Session.proceeds_start staffed.wellFormed starts).2] at ended
      cases ended
  | @supervised session hub isStep was steps becomes =>
      refine .inr ⟨isStep, ?_⟩
      have named := staffed.named id session was
      obtain ⟨connection, known⟩ := Option.isSome_iff_exists.1 (staffed.known id session was)
      rw [← named] at known
      obtain ⟨last, touches, -⟩ := Session.moves_superviseStep staffed.wellFormed known steps
      rw [named] at touches
      rw [becomes]
      cases Session.leaves_superviseStep staffed.wellFormed known steps with
      | waits _ goesOn => cases ended.symm.trans goesOn
      | ends chores isLast finished closes _ told =>
          cases ended.symm.trans told
          rw [named] at chores isLast closes
          exact ⟨⟨_, _, chores, ⟨_, isLast, finished⟩,
            Hub.graceFor_of_finished isLast finished, closes⟩, rfl, rfl, touches.others⟩

/-! A connection that has a session is claimed for good. -/

def Claimed (live : LiveHub) (id : ConnectionId) : Prop :=
  ∀ session, live.sessions.get? id = some session →
    ∃ connection, live.hub.get? id = some connection ∧ connection.control.reader ≠ .waiting

theorem claimed_opened (id : ConnectionId) (connection : Connection) (sink : Sink) :
    (opened id connection sink).connection.control.reader ≠ .waiting := by
  have taken : ({ connection with
      control := { connection.control with reader := .taken },
      attached := true } : Connection).control.reader ≠ .waiting := by simp
  exact Connection.claimed_undergo taken (.tend (.sendControl (.welcome id _)))

theorem Agrees.claimed_act (agrees : live.Agrees id log) (claimed : live.Claimed id)
    (whole : action.isWhole = true) : (live.act action).Claimed id := by
  have handles := (advances_act agrees.staffed whole).handles agrees.heard
  intro after found
  cases origin_act agrees.staffed.wellFormed found with
  | kept was _ =>
      obtain ⟨connection, known, taken⟩ := claimed _ was
      exact handles.claimed known taken
  | started starts becomes =>
      obtain ⟨connection, -, -, touches, -⟩ := start_eq_some agrees.staffed.wellFormed starts
      rw [becomes]
      exact ⟨_, touches.own, claimed_opened id connection _⟩
  | supervised _ was _ _ =>
      obtain ⟨connection, known, taken⟩ := claimed _ was
      exact handles.claimed known taken

theorem Agrees.claimed_run {actions : List Action} (agrees : live.Agrees id log)
    (claimed : live.Claimed id) (whole : ∀ action ∈ actions, action.isWhole = true) :
    (live.run actions).Claimed id := by
  induction actions generalizing live log with
  | nil => exact claimed
  | cons action rest ih =>
      obtain ⟨isWhole, whole⟩ := List.forall_mem_cons.1 whole
      exact ih (agrees.act isWhole) (agrees.claimed_act claimed isWhole) whole

theorem startSession_of_claimed (claimed : live.Claimed id)
    (found : live.sessions.get? id = some session) (sink : Sink) :
    live.startSession id sink = (live, (live.hub.get? id).map Connection.reason) := by
  obtain ⟨connection, known, taken⟩ := claimed session found
  have refused : Session.start live.hub id sink = none := by
    simp [Session.start, known, ControlQueue.take?, taken]
  rw [startSession, refused]

/-! The end of a session in a run. -/

theorem finale_run (config : HubConfig) {actions : List Action}
    (found : ((idle config).run actions).sessions.get? id = some session)
    (ended : session.ended? = some reason) :
    ∃ earlier later, actions = earlier ++ .work (.supervise id) :: later ∧
      ((idle config).run earlier).Finale id reason
        ((idle config).run (earlier ++ [.work (.supervise id)])) := by
  induction actions using List.reverseRecOn generalizing session with
  | nil => cases found
  | append_singleton earlier action ih =>
      rw [run_append] at found
      have staffed := (staffed_idle config).run earlier
      rcases ended_act staffed found ended with ⟨before, was, isOver⟩ | ⟨rfl, finale⟩
      · obtain ⟨first, rest, rfl, finale⟩ := ih was isOver
        refine ⟨first, rest ++ [action], ?_, finale⟩
        rw [List.append_assoc, List.cons_append]
      · refine ⟨earlier, [], rfl, ?_⟩
        rw [run_append]
        exact finale

theorem gone_of_finale (config : HubConfig) {earlier later : List Action}
    (whole : ∀ action ∈ earlier ++ .work (.supervise id) :: later, action.isWhole = true)
    (finale : ((idle config).run earlier).Finale id reason
      ((idle config).run (earlier ++ [.work (.supervise id)]))) :
    ((idle config).run (earlier ++ .work (.supervise id) :: later)).hub.Gone id := by
  have sound := sound_run (sound_idle config) earlier
  obtain ⟨unregistered, connection, known, finished⟩ := finale.departed sound.wellFormed
  have split : earlier ++ .work (.supervise id) :: later =
      earlier ++ [.work (.supervise id)] ++ later := by rw [List.append_assoc]; rfl
  rw [split] at whole ⊢
  rw [run_append]
  have until_end := fun action member => whole action (List.mem_append_left later member)
  have since_end := fun action member => whole action (List.mem_append_right _ member)
  have agrees := (agrees_idle config id).run until_end
  have middle := sound_run (sound_idle config) (earlier ++ [.work (.supervise id)])
  obtain ⟨last, isLast, stillFinished⟩ := (handles_run agrees since_end).finished known finished
  obtain ⟨operations, reached⟩ := hub_run middle.wellFormed later
  have departed : ((idle config).run (earlier ++ [.work (.supervise id)])).hub.Departed id :=
    ⟨Option.isSome_iff_exists.2 ⟨connection, known⟩, unregistered⟩
  have away := (departed.run middle.wellFormed operations).1.2
  rw [← reached] at away
  exact (sound_run middle later).gone away isLast stillFinished

/-- A connection that has a session gets no second one: a further one ends at once and changes
nothing. When its session is over, the connection is gone, and the step that ended it waited for
nobody and left all others alone. -/
theorem session_torn_down (config : HubConfig) {actions : List Action}
    (whole : ∀ action ∈ actions, action.isWhole = true)
    (found : ((idle config).run actions).sessions.get? id = some session) :
    ∃ connection, ((idle config).run actions).hub.get? id = some connection ∧
      (∀ sink, ((idle config).run actions).startSession id sink =
        ((idle config).run actions, some connection.reason)) ∧
      ∀ reason, session.ended? = some reason →
        connection.reason = reason ∧ ((idle config).run actions).hub.Gone id ∧
        ∃ earlier later, actions = earlier ++ .work (.supervise id) :: later ∧
          ((idle config).run earlier).Finale id reason
            ((idle config).run (earlier ++ [.work (.supervise id)])) := by
  have agrees := (agrees_idle config id).run whole
  have claimed := (agrees_idle config id).claimed_run (fun _ absent => nomatch absent) whole
  obtain ⟨connection, known, -⟩ := claimed session found
  refine ⟨connection, known, fun sink => ?_, fun reason ended => ?_⟩
  · rw [startSession_of_claimed claimed found, known, Option.map_some]
  · have told := (agrees.candid session found).ended reason ended
    rw [Hub.closeReason_standing known] at told
    obtain ⟨earlier, later, rfl, finale⟩ := finale_run config found ended
    refine ⟨?_, gone_of_finale config whole finale, earlier, later, rfl, finale⟩
    rw [Connection.reason, told, Option.getD_some]

/-- The server closes a client whose sink takes nothing; the session is abandoned meanwhile. -/
theorem session_torn_down_stalled :
    ((idle { teardownGrace := 5, drainTimeout := 3 }).run
      [.hub (.register "c" { subject := "s" } 1), .hub (.subscribe "c" ["alert"] []),
        .startSession "c" none (some 0), .beginClose "c" .serverShutdown, .work (.receive "c"),
        .work (.supervise "c"), .passTime 5 5, .work (.supervise "c")]).hub.Gone "c" := by
  have whole : ∀ action ∈ [Action.hub (.register "c" { subject := "s" } 1),
      .hub (.subscribe "c" ["alert"] []), .startSession "c" none (some 0),
      .beginClose "c" .serverShutdown, .work (.receive "c"), .work (.supervise "c"),
      .passTime 5 5, .work (.supervise "c")], action.isWhole = true := by decide
  obtain ⟨session, found, ended⟩ : ∃ session, ((idle { teardownGrace := 5, drainTimeout := 3 }).run
      [.hub (.register "c" { subject := "s" } 1), .hub (.subscribe "c" ["alert"] []),
        .startSession "c" none (some 0), .beginClose "c" .serverShutdown, .work (.receive "c"),
        .work (.supervise "c"), .passTime 5 5, .work (.supervise "c")]).sessions.get? "c" =
      some session ∧ session.ended? = some .serverShutdown := ⟨_, rfl, by decide⟩
  obtain ⟨connection, -, -, tornDown⟩ := session_torn_down _ whole found
  exact (tornDown _ ended).2.1

end LiveHub

end EventHub
