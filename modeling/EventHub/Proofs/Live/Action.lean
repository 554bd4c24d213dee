import EventHub.Live.Operations
import EventHub.Proofs.Hub.Alike
import EventHub.Proofs.Session.Trail

/-!
A hub at work as a transition system. An action is whatever can happen next: an operation of the
embedding server, an event handed in, a frame or a failure of some client's transport, time
passing, or one step of one of the hub's own tasks, in any order.

Each action is atomic: another comes before it or after it, never halfway. That is taken of a call
of the hub; of a command with its reply; of a monitor pass, all its visits included, up to where its
closes are awaited; and of a turn of a send loop, from the look at the close to the message that is
taken. The write of that message is a step of its own, and so is the end of a close. How subscribes
and closes interleave section by section is told in `EventHub.Proofs.Hub.Race`.
-/

namespace EventHub

namespace LiveHub

inductive Action where
  | hub (operation : Hub.Operation)
  | publish (event : Event)
  | routeNext
  | closeIngest
  | startSession (id : ConnectionId) (failAfter stallAfter : Option Nat)
  | receive (id : ConnectionId) (frame : Inbound)
  | limitSink (id : ConnectionId) (failAfter stallAfter : Option Nat)
  | beginClose (id : ConnectionId) (reason : CloseReason)
  | passTime (clock wallClock : Instant)
  | setRouting (running : Bool)
  | setMonitor (phase : MonitorPhase)
  | work (task : Task)

/-- Routes the queued event that is next, with or without a running router. -/
def routeNext (live : LiveHub) : LiveHub :=
  match live.ingest.next? with
  | some (event, rest) => { live with hub := (live.hub.route event).1, ingest := rest }
  | none => live

def act (live : LiveHub) : Action → LiveHub
  | .hub operation => { live with hub := live.hub.apply operation }
  | .publish event => (live.publish event).1
  | .routeNext => live.routeNext
  | .closeIngest => live.closeIngest
  | .startSession id failAfter stallAfter => (live.startSession id { failAfter, stallAfter }).1
  | .receive id frame => (live.receive id frame).1
  | .limitSink id failAfter stallAfter =>
      live.modifySink id fun sink => { sink with failAfter, stallAfter }
  | .beginClose id reason => (live.beginClose? id reason).getD live
  | .passTime clock wallClock => { live with clock, wallClock }
  | .setRouting running => { live with routing := running }
  | .setMonitor phase => { live with monitor := phase }
  | .work task => (live.taskStep task).getD live

def run (live : LiveHub) (actions : List Action) : LiveHub :=
  actions.foldl act live

@[simp] theorem run_nil (live : LiveHub) : live.run [] = live := rfl

@[simp] theorem run_cons (live : LiveHub) (action : Action) (rest : List Action) :
    live.run (action :: rest) = (live.act action).run rest := rfl

theorem run_append (live : LiveHub) (earlier later : List Action) :
    live.run (earlier ++ later) = (live.run earlier).run later :=
  List.foldl_append

/-- An event as it is routed: the hub that routes it, and whether it comes from the ingest
queue. -/
structure Routing where
  hub : Hub
  event : Event
  queued : Bool

def nextRouting? (live : LiveHub) : Option Routing :=
  live.ingest.next?.map fun (event, _) => { hub := live.hub, event, queued := true }

def routing? (live : LiveHub) : Action → Option Routing
  | .hub (.route event) => some { hub := live.hub, event, queued := false }
  | .routeNext => live.nextRouting?
  | .work .route => if live.routing then live.nextRouting? else none
  | _ => none

variable {live next : LiveHub}

theorem act_work (live : LiveHub) (task : Task) :
    live.act (.work task) = live ∨ live.taskStep task = some (live.act (.work task)) := by
  rw [act]
  cases live.taskStep task with
  | none => exact Or.inl rfl
  | some next => exact Or.inr rfl

theorem act_beginClose (live : LiveHub) (id : ConnectionId) (reason : CloseReason) :
    live.act (.beginClose id reason) = live ∨
      live.beginClose? id reason = some (live.act (.beginClose id reason)) := by
  rw [act]
  cases live.beginClose? id reason with
  | none => exact Or.inl rfl
  | some next => exact Or.inr rfl

theorem routeStep_getD (live : LiveHub) :
    live.routeStep.getD live = if live.routing then live.routeNext else live := by
  rw [routeStep, routeNext]
  split
  · cases live.ingest.next? with
    | none => rfl
    | some taken => rfl
  · rfl

theorem routeNext_eq {routing : Routing} (routed : live.nextRouting? = some routing) :
    routing.hub = live.hub ∧ live.routeNext.hub = (live.hub.route routing.event).1 ∧
      live.routeNext.sessions = live.sessions := by
  obtain ⟨⟨event, rest⟩, taken, rfl⟩ := Option.map_eq_some_iff.1 routed
  rw [routeNext, taken]
  exact ⟨rfl, rfl, rfl⟩

theorem routeNext_of_none (idle : live.nextRouting? = none) : live.routeNext = live := by
  rw [routeNext, Option.map_eq_none_iff.1 idle]

theorem act_route_of_none (quiet : live.routing? (.work .route) = none) :
    live.act (.work .route) = live := by
  simp only [act, taskStep, routeStep_getD]
  simp only [routing?] at quiet
  split
  · rename_i running
    rw [if_pos running] at quiet
    exact routeNext_of_none quiet
  · rfl

theorem beginClose?_eq_some {id : ConnectionId} {reason : CloseReason}
    (begun : live.beginClose? id reason = some next) :
    live.hub.Proceeds next.hub ∧ next.sessions = live.sessions ∧ next.ingest = live.ingest := by
  obtain ⟨hub, closing, rfl⟩ := Option.map_eq_some_iff.1 begun
  have proceeds : live.hub.Proceeds (live.hub.apply (.beginClose id reason)) := .apply _ rfl
  simp only [Hub.apply, closing, Option.getD_some] at proceeds
  exact ⟨proceeds, rfl, rfl⟩

theorem beginCloses_frame (live : LiveHub) (reason : CloseReason) (ids : List ConnectionId) :
    live.hub.Proceeds (live.beginCloses reason ids).hub ∧
      (live.beginCloses reason ids).sessions = live.sessions ∧
      (live.beginCloses reason ids).ingest = live.ingest := by
  induction ids generalizing live with
  | nil => exact ⟨.refl live.hub, rfl, rfl⟩
  | cons id rest ih =>
      obtain ⟨later, sessions, ingest⟩ := ih ((live.beginClose? id reason).getD live)
      cases begun : live.beginClose? id reason with
      | none =>
          simp only [begun, Option.getD_none] at later sessions ingest
          simp only [beginCloses, List.foldl_cons, begun, Option.getD_none]
          exact ⟨later, sessions, ingest⟩
      | some next =>
          obtain ⟨earlier, sameSessions, sameIngest⟩ := beginClose?_eq_some begun
          simp only [begun, Option.getD_some] at later sessions ingest
          simp only [beginCloses, List.foldl_cons, begun, Option.getD_some]
          exact ⟨earlier.trans later, sessions.trans sameSessions, ingest.trans sameIngest⟩

theorem closing_of_finishStep {id : ConnectionId} (steps : live.finishStep id = some next) :
    ∃ closing ∈ live.closings, closing.id = id ∧
      next = { live with
        hub := live.hub.finishClose id closing.reason
        closings := live.closings.filter fun other => other.id ≠ id } := by
  simp only [finishStep] at steps
  split at steps
  · rename_i closing waits
    split at steps
    · cases steps
      exact ⟨closing, List.mem_of_find?_eq_some waits, by simpa using List.find?_some waits, rfl⟩
    · cases steps
  · cases steps

/-- What a step of the monitor does: a pass begins, or one is over. -/
inductive MonitorTurn (live next : LiveHub) : Prop where
  | passes {due : Instant} (monitor : MonitorPhase) (phase : live.monitor = .waiting due)
      (becomes : next = beginCloses
        { live with hub := (live.hub.survey live.wallClock live.stamp).1, monitor }
        .heartbeatTimeout (live.hub.survey live.wallClock live.stamp).2.evicted)
  | rests {evicted : List ConnectionId} {due : Instant}
      (phase : live.monitor = .closing evicted due)
      (becomes : next = { live with monitor := .waiting due })

theorem monitorTurn (steps : live.monitorStep = some next) : live.MonitorTurn next := by
  simp only [monitorStep] at steps
  split at steps
  · cases steps
  · rename_i due phase
    split at steps
    · exact .passes _ phase (Option.some.inj steps).symm
    · cases steps
  · rename_i evicted due phase
    split at steps
    · cases steps
    · exact .rests phase (Option.some.inj steps).symm

theorem finishStep_eq_some {id : ConnectionId} (steps : live.finishStep id = some next) :
    live.hub.Proceeds next.hub ∧ next.sessions = live.sessions ∧ next.ingest = live.ingest := by
  obtain ⟨closing, -, -, rfl⟩ := closing_of_finishStep steps
  have finished : live.hub.Proceeds (live.hub.apply (.finishClose id closing.reason)) :=
    .apply _ rfl
  exact ⟨finished, rfl, rfl⟩

theorem monitorStep_eq_some (steps : live.monitorStep = some next) :
    live.hub.Proceeds next.hub ∧ next.sessions = live.sessions ∧ next.ingest = live.ingest := by
  cases monitorTurn steps with
  | passes monitor phase becomes =>
      subst becomes
      have surveyed : live.hub.Proceeds (live.hub.apply (.survey live.wallClock live.stamp)) :=
        .apply _ rfl
      obtain ⟨closed, sessions, ingest⟩ := beginCloses_frame _ .heartbeatTimeout _
      exact ⟨surveyed.trans closed, sessions, ingest⟩
  | rests phase becomes =>
      subst becomes
      exact ⟨.refl live.hub, rfl, rfl⟩

theorem startSession_eq_some {id : ConnectionId} {sink : Sink} {hub : Hub} {session : Session}
    (starts : Session.start live.hub id sink = some (hub, session)) :
    (live.startSession id sink).1 =
      { live with hub, sessions := live.sessions.insert id session } := by
  rw [startSession, starts]

theorem startSession_eq_none {id : ConnectionId} {sink : Sink}
    (refused : Session.start live.hub id sink = none) : (live.startSession id sink).1 = live := by
  rw [startSession, refused]

theorem settleStep_eq_some {id : ConnectionId} {step : Session → Option (Hub × Session)}
    (steps : ((live.sessions.get? id).bind fun session => live.settleStep id (step session)) =
      some next) :
    ∃ session hub after, live.sessions.get? id = some session ∧
      step session = some (hub, after) ∧
      next = { live with hub, sessions := live.sessions.insert id after } := by
  obtain ⟨session, found, settles⟩ := Option.bind_eq_some_iff.1 steps
  cases stepped : step session with
  | none =>
      rw [stepped] at settles
      cases settles
  | some outcome =>
      obtain ⟨hub, after⟩ := outcome
      rw [stepped] at settles
      cases settles
      exact ⟨session, hub, after, found, stepped, rfl⟩

theorem hub_receive (live : LiveHub) (id : ConnectionId) (frame : Inbound) :
    (live.receive id frame).1.hub = live.hub := by
  rw [receive]
  split
  · split <;> rfl
  · rfl

theorem hub_publish (live : LiveHub) (event : Event) : (live.publish event).1.hub = live.hub := by
  rw [publish]
  split <;> rfl

theorem proceeds_taskStep (wellFormed : live.hub.WellFormed) {task : Task}
    (quiet : task ≠ .route) (steps : live.taskStep task = some next) :
    live.hub.Proceeds next.hub := by
  cases task with
  | send id =>
      obtain ⟨session, hub, after, -, stepped, rfl⟩ := settleStep_eq_some steps
      exact (Session.passes_sendStep wellFormed stepped).proceeds
  | receive id =>
      obtain ⟨session, hub, after, -, stepped, rfl⟩ := settleStep_eq_some steps
      exact (Session.proceeds_receiveStep wellFormed stepped).1
  | supervise id =>
      obtain ⟨session, hub, after, -, stepped, rfl⟩ := settleStep_eq_some steps
      exact Session.proceeds_superviseStep stepped
  | close id => exact (finishStep_eq_some steps).1
  | route => exact absurd rfl quiet
  | monitor => exact (monitorStep_eq_some steps).1

theorem act_of_routing {action : Action} {routing : Routing}
    (routed : live.routing? action = some routing) :
    routing.hub = live.hub ∧ (live.act action).hub = (live.hub.route routing.event).1 ∧
      (live.act action).sessions = live.sessions := by
  simp only [routing?] at routed
  split at routed
  · cases routed
    exact ⟨rfl, rfl, rfl⟩
  · exact routeNext_eq routed
  · split at routed
    · rename_i running
      simp only [act, taskStep, routeStep_getD, running, if_true]
      exact routeNext_eq routed
    · cases routed
  · cases routed

/-- An action that routes nothing is a run of quiet operations of the hub. -/
theorem proceeds_act (wellFormed : live.hub.WellFormed) {action : Action}
    (quiet : live.routing? action = none) : live.hub.Proceeds (live.act action).hub := by
  cases action with
  | hub operation =>
      have isQuiet : operation.isRoute = false := by
        cases operation with
        | route event => cases quiet
        | _ => rfl
      exact .apply live.hub isQuiet
  | publish event =>
      simp only [act, hub_publish]
      exact .refl live.hub
  | routeNext =>
      simp only [act, routeNext_of_none quiet]
      exact .refl live.hub
  | closeIngest => exact .refl live.hub
  | startSession id failAfter stallAfter =>
      simp only [act]
      cases starts : Session.start live.hub id { failAfter, stallAfter } with
      | none =>
          rw [startSession_eq_none starts]
          exact .refl live.hub
      | some started =>
          rw [startSession_eq_some starts]
          exact (Session.proceeds_start wellFormed starts).1
  | receive id frame =>
      simp only [act, hub_receive]
      exact .refl live.hub
  | limitSink id failAfter stallAfter => exact .refl live.hub
  | beginClose id reason =>
      rcases act_beginClose live id reason with idle | begun
      · rw [idle]
        exact .refl live.hub
      · exact (beginClose?_eq_some begun).1
  | passTime clock wallClock => exact .refl live.hub
  | setRouting running => exact .refl live.hub
  | setMonitor phase => exact .refl live.hub
  | work task =>
      by_cases isRoute : task = .route
      · subst isRoute
        rw [act_route_of_none quiet]
        exact .refl live.hub
      · rcases act_work live task with idle | steps
        · rw [idle]
          exact .refl live.hub
        · exact proceeds_taskStep wellFormed isRoute steps

theorem hub_act (wellFormed : live.hub.WellFormed) (action : Action) :
    ∃ operations, (live.act action).hub = live.hub.run operations := by
  cases routed : live.routing? action with
  | none =>
      obtain ⟨operations, -, reached⟩ := proceeds_act wellFormed routed
      exact ⟨operations, reached⟩
  | some routing => exact ⟨[.route routing.event], (act_of_routing routed).2.1⟩

/-- Whatever happens, what it does to the hub is a run of the hub's operations. -/
theorem hub_run (wellFormed : live.hub.WellFormed) (actions : List Action) :
    ∃ operations, (live.run actions).hub = live.hub.run operations := by
  induction actions generalizing live with
  | nil => exact ⟨[], rfl⟩
  | cons action rest ih =>
      obtain ⟨earlier, reached⟩ := hub_act wellFormed action
      have between : (live.act action).hub.WellFormed := by
        rw [reached]
        exact Hub.wellFormed_run wellFormed earlier
      obtain ⟨later, reachedLater⟩ := ih between
      refine ⟨earlier ++ later, ?_⟩
      rw [run_cons, reachedLater, reached, Hub.run_append]

theorem sound_run (sound : live.hub.Sound) (actions : List Action) :
    (live.run actions).hub.Sound := by
  obtain ⟨operations, reached⟩ := hub_run sound.wellFormed actions
  rw [reached]
  exact sound.run operations

theorem mapped_run (mapped : live.hub.Mapped) (wellFormed : live.hub.WellFormed)
    (actions : List Action) : (live.run actions).hub.Mapped := by
  obtain ⟨operations, reached⟩ := hub_run wellFormed actions
  rw [reached]
  exact mapped.run wellFormed operations

theorem sound_idle (config : HubConfig) : (idle config).hub.Sound :=
  Hub.sound_ofConfig config

theorem config_run_idle (config : HubConfig) (actions : List Action) :
    ((idle config).run actions).hub.config = config := by
  obtain ⟨operations, reached⟩ := hub_run (sound_idle config).wellFormed actions
  rw [reached, Hub.config_run (sound_idle config).wellFormed]
  rfl

end LiveHub

end EventHub
