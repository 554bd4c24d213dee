import EventHub.Proofs.Hub.Handling
import EventHub.Proofs.Live.Turn
import EventHub.Proofs.Session.Chores

/-!
Whatever happens in a hub at work, in single operations of the hub and single steps of the closes
that wait in it. What all of these keep, every action keeps.
-/

namespace EventHub

theorem Hub.Operation.isFair_of_isChore {id : ConnectionId} {operation : Hub.Operation}
    (chore : operation.isChore id = true) : operation.isFair = true := by
  cases operation with
  | report entry =>
      cases entry with
      | crossed other crossing => rfl
      | _ => cases chore
  | dequeue _ | clear _ | tend _ _ | beginDraining _ _ => rfl
  | _ => cases chore

namespace LiveHub

/-- No part of one of the hub's own closes is done from outside. -/
def Action.isWhole : Action → Bool
  | .hub operation => operation.isWhole
  | _ => true

/-- The closes that a monitor pass begins. -/
def monitorCalls (live : LiveHub) : List CloseCall :=
  let (surveyed, report) := live.hub.survey live.wallClock live.stamp
  Hub.callsAlong (fun hub id => (hub.beginClose? id .heartbeatTimeout).getD hub) .heartbeatTimeout
    surveyed report.evicted

def taskCalls (live : LiveHub) : Task → List CloseCall
  | .send id => (live.sessions.get? id).elim [] (Session.sendCalls live.hub)
  | .supervise id =>
      (live.sessions.get? id).elim [] (Session.superviseCalls live.clock live.hub)
  | .monitor =>
      match live.monitor with
      | .waiting _ => live.monitorCalls
      | .stopped | .closing _ _ => []
  | .receive _ | .close _ | .route => []

/-- The close calls of an action; a step that is not taken makes none. -/
def calls (live : LiveHub) : Action → List CloseCall
  | .hub operation => live.hub.calls operation
  | .beginClose id reason => live.hub.closeCalls id reason
  | .work task => if (live.taskStep task).isSome then live.taskCalls task else []
  | .publish _ | .routeNext | .closeIngest | .startSession _ _ _ | .receive _ _
  | .limitSink _ _ _ | .passTime _ _ | .setRouting _ | .setMonitor _ => []

/-- The close calls of a run. -/
def log : LiveHub → List Action → List CloseCall
  | _, [] => []
  | live, action :: rest => live.calls action ++ log (live.act action) rest

/-- From one hub at work to the other, with these close calls on the way. -/
inductive Advances : LiveHub → List CloseCall → LiveHub → Prop where
  | rests {live next : LiveHub} (hub : next.hub = live.hub)
      (closings : next.closings = live.closings) : Advances live [] next
  | operates {live next : LiveHub} (operation : Hub.Operation) (fair : operation.isFair = true)
      (hub : next.hub = live.hub.apply operation) (closings : next.closings = live.closings) :
      Advances live (live.hub.calls operation) next
  | begins (live : LiveHub) (id : ConnectionId) (reason : CloseReason) :
      Advances live (live.hub.closeCalls id reason) ((live.beginClose? id reason).getD live)
  | ends {live next : LiveHub} {id : ConnectionId} (steps : live.finishStep id = some next) :
      Advances live [] next
  | trans {live middle next : LiveHub} {earlier later : List CloseCall}
      (first : Advances live earlier middle) (second : Advances middle later next) :
      Advances live (earlier ++ later) next

variable {live next : LiveHub} {id : ConnectionId} {calls log : List CloseCall} {task : Task}
  {action : Action}

/-! Each action. -/

theorem advances_of_chores {hub after : Hub} (chores : Hub.Chores id hub calls after)
    (before : live.hub = hub) (becomes : next.hub = after)
    (closings : next.closings = live.closings) : live.Advances calls next := by
  induction chores generalizing live with
  | done hub => exact .rests (becomes.trans before.symm) closings
  | @step hub after operation calls chore later ih =>
      subst before
      have first : live.Advances (live.hub.calls operation)
          { live with hub := live.hub.apply operation } :=
        .operates operation (Hub.Operation.isFair_of_isChore chore) rfl rfl
      exact first.trans (ih rfl becomes closings)

theorem hub_beginClose (live : LiveHub) (key : ConnectionId) (reason : CloseReason) :
    ((live.beginClose? key reason).getD live).hub =
      (live.hub.beginClose? key reason).getD live.hub := by
  rw [beginClose?]
  cases live.hub.beginClose? key reason with
  | none => rfl
  | some hub => rfl

theorem advances_beginCloses (live : LiveHub) (reason : CloseReason) (ids : List ConnectionId) :
    live.Advances
      (Hub.callsAlong (fun hub id => (hub.beginClose? id reason).getD hub) reason live.hub ids)
      (live.beginCloses reason ids) := by
  induction ids generalizing live with
  | nil => exact .rests rfl rfl
  | cons id rest ih =>
      rw [Hub.callsAlong, ← hub_beginClose]
      exact (Advances.begins live id reason).trans (ih _)

theorem advances_monitorStep (steps : live.monitorStep = some next) :
    live.Advances (live.taskCalls .monitor) next := by
  simp only [taskCalls]
  cases monitorTurn steps with
  | passes monitor phase becomes =>
      subst becomes
      rw [phase]
      have surveyed (monitor : MonitorPhase) : live.Advances [] { live with
          hub := (live.hub.survey live.wallClock live.stamp).1, monitor } :=
        .operates (.survey live.wallClock live.stamp) rfl rfl rfl
      exact (surveyed monitor).trans (advances_beginCloses _ .heartbeatTimeout _)
  | rests phase becomes =>
      subst becomes
      rw [phase]
      exact .rests rfl rfl

theorem advances_receive {session after : Session} {hub : Hub}
    (wellFormed : live.hub.WellFormed)
    (steps : session.receiveStep live.wallClock live.hub = some (hub, after))
    (becomes : next.hub = hub) (closings : next.closings = live.closings) :
    live.Advances [] next := by
  have chores := Session.chores_receiveStep wellFormed steps
  cases commanded : session.command? live.hub with
  | none =>
      rw [commanded] at chores
      exact advances_of_chores chores rfl becomes closings
  | some command =>
      rw [commanded] at chores
      cases command with
      | pong => exact advances_of_chores chores rfl becomes closings
      | subscribe events clusters =>
          have obeyed : live.Advances [] { live with
              hub := (live.hub.subscribe session.id events clusters).1 } :=
            .operates (.subscribe session.id events clusters) rfl rfl rfl
          exact obeyed.trans (advances_of_chores chores rfl becomes closings)
      | unsubscribe events =>
          have obeyed : live.Advances [] { live with
              hub := (live.hub.unsubscribe session.id events).1 } :=
            .operates (.unsubscribe session.id events) rfl rfl rfl
          exact obeyed.trans (advances_of_chores chores rfl becomes closings)

theorem advances_supervise {session after : Session} {hub : Hub}
    (wellFormed : live.hub.WellFormed) (known : (live.hub.get? session.id).isSome = true)
    (steps : session.superviseStep live.clock live.hub = some (hub, after))
    (becomes : next.hub = hub) (closings : next.closings = live.closings) :
    live.Advances (session.superviseCalls live.clock live.hub) next := by
  obtain ⟨connection, found⟩ := Option.isSome_iff_exists.1 known
  cases Session.leaves_superviseStep wellFormed found steps with
  | waits chores _ => exact advances_of_chores chores rfl becomes closings
  | @ends middle earlier connection reason chores _ _ closes made _ =>
      have until_close : live.Advances earlier { live with hub := middle } :=
        advances_of_chores chores rfl rfl rfl
      rw [made]
      exact until_close.trans
        (.operates (.close session.id reason) rfl (becomes.trans closes.symm) closings)

theorem advances_route (live : LiveHub) : live.Advances [] live.routeNext := by
  rw [routeNext]
  split
  · rename_i event rest _
    exact .operates (.route event) rfl rfl rfl
  · exact .rests rfl rfl

theorem advances_taskStep (staffed : live.Staffed) (steps : live.taskStep task = some next) :
    live.Advances (live.taskCalls task) next := by
  cases task with
  | send key =>
      obtain ⟨session, hub, after, found, stepped, rfl⟩ := settleStep_eq_some steps
      rw [taskCalls, found]
      exact advances_of_chores (Session.chores_sendStep staffed.wellFormed stepped) rfl rfl rfl
  | receive key =>
      obtain ⟨session, hub, after, -, stepped, rfl⟩ := settleStep_eq_some steps
      exact advances_receive staffed.wellFormed stepped rfl rfl
  | supervise key =>
      obtain ⟨session, hub, after, found, stepped, rfl⟩ := settleStep_eq_some steps
      have known : (live.hub.get? session.id).isSome = true := by
        rw [staffed.named key session found]
        exact staffed.known key session found
      rw [taskCalls, found]
      exact advances_supervise staffed.wellFormed known stepped rfl rfl
  | close key => exact .ends steps
  | route =>
      have routed := live.routeStep_getD
      have stepped : live.routeStep = some next := steps
      rw [stepped, Option.getD_some] at routed
      rw [routed]
      split
      · exact live.advances_route
      · exact .rests rfl rfl
  | monitor => exact advances_monitorStep steps

theorem advances_act (staffed : live.Staffed) (whole : action.isWhole = true) :
    live.Advances (live.calls action) (live.act action) := by
  cases action with
  | hub operation => exact .operates operation (Hub.Operation.isFair_of_isWhole whole) rfl rfl
  | beginClose key reason => exact .begins live key reason
  | work task =>
      rw [calls, act]
      cases steps : live.taskStep task with
      | none => exact .rests rfl rfl
      | some next => exact advances_taskStep staffed steps
  | publish event =>
      simp only [calls, act, publish]
      split <;> exact .rests rfl rfl
  | routeNext => exact live.advances_route
  | startSession key failAfter stallAfter =>
      simp only [calls, act]
      cases starts : Session.start live.hub key { failAfter, stallAfter } with
      | none =>
          rw [startSession_eq_none starts]
          exact .rests rfl rfl
      | some started =>
          rw [startSession_eq_some starts]
          exact advances_of_chores (Session.chores_start staffed.wellFormed starts) rfl rfl rfl
  | receive key frame =>
      simp only [calls, act, receive]
      split
      · split <;> exact .rests rfl rfl
      · exact .rests rfl rfl
  | closeIngest | limitSink _ _ _ | passTime _ _ | setRouting _ | setMonitor _ =>
      exact .rests rfl rfl

end LiveHub

end EventHub
