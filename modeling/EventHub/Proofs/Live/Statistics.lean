import EventHub.Proofs.Hub.Waning
import EventHub.Proofs.Live.Advance
import Mathlib.Data.Set.Card

/-!
The statistics of a hub at work. At every point at which no close waits, they agree with what is
exported and with what has happened: who came and went, what was routed, and which subscriptions
were given up.
-/

namespace EventHub

namespace Hub

variable {hub next : Hub} {id : ConnectionId}

/-- How many subscriptions a command gives up. -/
def unsubscribedBy (hub : Hub) (id : ConnectionId) : Option ClientCommand → Nat
  | some (.unsubscribe events) => (hub.unsubscribe id events).2
  | some (.subscribe _ _) | some .pong | none => 0

theorem registered_obey (hub : Hub) (id : ConnectionId) (command : Option ClientCommand) :
    (hub.obey id command).registered = hub.registered := by
  cases command with
  | none => rfl
  | some command =>
      cases command with
      | pong => rfl
      | subscribe events clusters => exact hub.registered_subscribe id events clusters
      | unsubscribe events => rfl

theorem tallies_obey (sound : hub.Sound) (id : ConnectionId) (command : Option ClientCommand) :
    Tallies hub (hub.unsubscribedBy id command) (hub.obey id command) := by
  cases command with
  | none => rfl
  | some command =>
      cases command with
      | pong => rfl
      | subscribe events clusters => exact hub.size_subscribe id events clusters
      | unsubscribe events =>
          exact congrArg (· + hub.totals.subscriptions) (size_unsubscribe sound id events)

/-- A command, and then nothing that the books show. -/
theorem Quiet.tallies_obey (sound : hub.Sound) {command : Option ClientCommand}
    (quiet : Quiet (hub.obey id command) next) :
    Tallies hub (hub.unsubscribedBy id command + hub.forgone next) next := by
  have nobody : hub.forgone next = 0 := by
    refine forgone_of_stays ?_
    intro other registered
    rw [quiet.isRegistered, Hub.isRegistered, hub.registered_obey]
    exact registered
  have tallies := Hub.tallies_obey sound id command
  rw [nobody, Tallies, quiet.index, quiet.totals]
  exact tallies

end Hub

namespace LiveHub

open Hub (Wanes Tallies)

variable {live next : LiveHub} {before : Metrics} {calls : List CloseCall} {action : Action}
  {task : Task}

/-! The books. -/

/-- The connections whose close has begun and waits. -/
def leaving (live : LiveHub) : List ConnectionId :=
  live.closings.map Closing.id

theorem Advances.ledger (advances : live.Advances calls next)
    (ledger : live.hub.Ledger before live.leaving) : next.hub.Ledger before next.leaving := by
  induction advances with
  | rests hub closings =>
      rw [hub, leaving, closings]
      exact ledger
  | operates operation fair hub closings =>
      rw [hub, leaving, closings]
      exact ledger.apply fair
  | begins live id reason =>
      rw [beginClose?]
      cases begun : live.hub.beginClose? id reason with
      | none => exact ledger
      | some hub =>
          have begins := ledger.beginClose begun
          simpa [leaving] using begins
  | @ends live next id steps =>
      obtain ⟨closing, waits, isId, rfl⟩ := closing_of_finishStep steps
      have member : id ∈ live.leaving := isId ▸ List.mem_map_of_mem waits
      have finishes := ledger.finishClose member closing.reason
      rw [leaving, List.filter_map] at finishes
      exact finishes
  | trans _ _ ihFirst ihSecond => exact ihSecond (ihFirst ledger)

theorem ledger_run (staffed : live.Staffed) (ledger : live.hub.Ledger before live.leaving)
    {actions : List Action} (whole : ∀ action ∈ actions, action.isWhole = true) :
    (live.run actions).hub.Ledger before (live.run actions).leaving := by
  induction actions generalizing live with
  | nil => exact ledger
  | cons action rest ih =>
      obtain ⟨isWhole, whole⟩ := List.forall_mem_cons.1 whole
      exact ih (staffed.act action) ((advances_act staffed isWhole).ledger ledger) whole

/-! Routed events. -/

/-- How often an event went into some buffer. -/
def enqueues (log : List Routing) : Nat :=
  (log.map fun routing => (routing.hub.takers routing.event).length).sum

/-- How often an older payload made room for an event. -/
def overflows (log : List Routing) : Nat :=
  (log.map fun routing => (routing.hub.overflows routing.event).length).sum

/-- The hub counts just these routings. -/
structure Counts (live : LiveHub) (log : List Routing) (next : LiveHub) : Prop where
  events : next.hub.totals.events = live.hub.totals.events + log.length
  delivered : next.hub.totals.delivered = live.hub.totals.delivered + enqueues log
  dropped : next.hub.totals.dropped = live.hub.totals.dropped + overflows log

theorem counts_act (wellFormed : live.hub.WellFormed) (action : Action) :
    live.Counts (live.routing? action).toList (live.act action) := by
  cases routed : live.routing? action with
  | some routing =>
      obtain ⟨isHub, routes, -⟩ := act_of_routing routed
      have totals := Hub.totals_route wellFormed routing.event
      refine ⟨?_, ?_, ?_⟩
      · rw [routes, totals]
        rfl
      · rw [routes, totals, ← isHub]
        rfl
      · rw [routes, totals, ← isHub]
        rfl
  | none =>
      obtain ⟨operations, quiet, reached⟩ := proceeds_act wellFormed routed
      have traffic := Hub.traffic_run wellFormed quiet
      rw [← reached] at traffic
      exact ⟨traffic.events, traffic.delivered, traffic.dropped⟩

theorem counts_run (staffed : live.Staffed) (actions : List Action) :
    live.Counts (live.routings actions) (live.run actions) := by
  induction actions generalizing live with
  | nil => exact ⟨rfl, rfl, rfl⟩
  | cons action rest ih =>
      have first := counts_act staffed.wellFormed action
      have later := ih (staffed.act action)
      refine ⟨?_, ?_, ?_⟩
      · rw [run_cons, routings, later.events, first.events, List.length_append, Nat.add_assoc]
      · rw [run_cons, routings, later.delivered, first.delivered, enqueues, enqueues, enqueues,
          List.map_append, List.sum_append, Nat.add_assoc]
      · rw [run_cons, routings, later.dropped, first.dropped, overflows, overflows, overflows,
          List.map_append, List.sum_append, Nat.add_assoc]

/-! Subscriptions. -/

/-- How many subscriptions an action gives up one by one. -/
def unsubscribed (live : LiveHub) : Action → Nat
  | .hub (.unsubscribe id events) => (live.hub.unsubscribe id events).2
  | .work (.receive id) =>
      (live.sessions.get? id).elim 0 fun session =>
        live.hub.unsubscribedBy session.id (session.command? live.hub)
  | _ => 0

/-- How many subscriptions end with an action, one by one or with a close. -/
def removed (live : LiveHub) (action : Action) : Nat :=
  live.unsubscribed action + live.hub.forgone (live.act action).hub

def removedIn : LiveHub → List Action → Nat
  | _, [] => 0
  | live, action :: rest => live.removed action + removedIn (live.act action) rest

theorem wanes_beginCloses (live : LiveHub) (wellFormed : live.hub.WellFormed)
    (reason : CloseReason) (ids : List ConnectionId) :
    Wanes live.hub (live.beginCloses reason ids).hub := by
  induction ids generalizing live with
  | nil => exact .refl _
  | cons id rest ih =>
      have first : Wanes live.hub (live.hub.apply (.beginClose id reason)) :=
        Hub.wanes_apply wellFormed rfl
      have between := (Hub.effect_apply wellFormed (.beginClose id reason)).wellFormed
      rw [Hub.apply, ← hub_beginClose] at first between
      exact first.trans (ih _ between)

theorem wanes_monitorStep (wellFormed : live.hub.WellFormed)
    (steps : live.monitorStep = some next) : Wanes live.hub next.hub := by
  cases monitorTurn steps with
  | passes monitor phase becomes =>
      subst becomes
      have surveyed := Hub.quiet_survey wellFormed live.wallClock live.stamp
      exact surveyed.wanes.trans
        (wanes_beginCloses { live with hub := _, monitor := _ } surveyed.wellFormed _ _)
  | rests phase becomes =>
      subst becomes
      exact .refl live.hub

theorem wanes_superviseStep {session after : Session} {hub : Hub}
    (wellFormed : live.hub.WellFormed) (known : (live.hub.get? session.id).isSome = true)
    (steps : session.superviseStep live.clock live.hub = some (hub, after)) :
    Wanes live.hub hub := by
  obtain ⟨connection, found⟩ := Option.isSome_iff_exists.1 known
  cases Session.leaves_superviseStep wellFormed found steps with
  | waits chores _ => exact (chores.quiet wellFormed).wanes
  | @ends middle earlier connection reason chores _ _ closes _ _ =>
      have quiet := chores.quiet wellFormed
      have closed : Wanes middle (middle.apply (.close session.id reason)) :=
        Hub.wanes_apply quiet.wellFormed rfl
      rw [← closes]
      exact quiet.wanes.trans closed

theorem wanes_routeNext (wellFormed : live.hub.WellFormed) :
    Wanes live.hub live.routeNext.hub := by
  rw [routeNext]
  split
  · exact Hub.wanes_route wellFormed _
  · exact .refl live.hub

theorem wanes_finishStep (wellFormed : live.hub.WellFormed) {id : ConnectionId}
    (steps : live.finishStep id = some next) : Wanes live.hub next.hub := by
  obtain ⟨closing, -, -, rfl⟩ := closing_of_finishStep steps
  have finished : Wanes live.hub (live.hub.apply (.finishClose id closing.reason)) :=
    Hub.wanes_apply wellFormed rfl
  exact finished

theorem wanes_taskStep (staffed : live.Staffed) (steps : live.taskStep task = some next)
    (apart : ∀ id, task ≠ .receive id) : Wanes live.hub next.hub := by
  have wellFormed := staffed.wellFormed
  cases task with
  | send id =>
      obtain ⟨session, hub, after, -, stepped, rfl⟩ := settleStep_eq_some steps
      exact ((Session.chores_sendStep wellFormed stepped).quiet wellFormed).wanes
  | receive id => exact absurd rfl (apart id)
  | supervise id =>
      obtain ⟨session, hub, after, found, stepped, rfl⟩ := settleStep_eq_some steps
      refine wanes_superviseStep wellFormed ?_ stepped
      rw [staffed.named id session found]
      exact staffed.known id session found
  | close id => exact wanes_finishStep wellFormed steps
  | route =>
      have routed := live.routeStep_getD
      have stepped : live.routeStep = some next := steps
      rw [stepped, Option.getD_some] at routed
      rw [routed]
      split
      · exact wanes_routeNext wellFormed
      · exact .refl live.hub
  | monitor => exact wanes_monitorStep wellFormed steps

theorem tallies_receive (staffed : live.Staffed) (sound : live.hub.Sound) {id : ConnectionId}
    (steps : live.taskStep (.receive id) = some next) :
    Tallies live.hub (live.unsubscribed (.work (.receive id)) + live.hub.forgone next.hub)
      next.hub := by
  obtain ⟨session, hub, after, found, stepped, rfl⟩ := settleStep_eq_some steps
  have obeyed := Hub.wellFormed_obey staffed.wellFormed session.id (session.command? live.hub)
  have quiet := (Session.chores_receiveStep staffed.wellFormed stepped).quiet obeyed
  rw [unsubscribed, found]
  exact quiet.tallies_obey sound

/-- A command that is not carried out gives nothing up. -/
theorem unsubscribed_of_none {id : ConnectionId} (waits : live.taskStep (.receive id) = none) :
    live.unsubscribed (.work (.receive id)) = 0 := by
  rw [unsubscribed]
  cases found : live.sessions.get? id with
  | none => rfl
  | some session =>
      rw [taskStep, found, Option.bind_some] at waits
      cases stepped : session.receiveStep live.wallClock live.hub with
      | some outcome =>
          rw [stepped] at waits
          cases waits
      | none =>
          have silent : session.command? live.hub = none := by
            by_contra commanded
            obtain ⟨command, commanded⟩ := Option.ne_none_iff_exists'.1 commanded
            have steps := Session.receiveStep_of_command live.wallClock commanded
            rw [stepped] at steps
            cases steps
          rw [Option.elim_some, silent]
          rfl

theorem tallies_work (staffed : live.Staffed) (sound : live.hub.Sound) (task : Task) :
    Tallies live.hub (live.removed (.work task)) (live.act (.work task)).hub := by
  have soundNext := sound_run sound [.work task]
  rw [run_cons, run_nil] at soundNext
  rw [removed]
  by_cases receives : ∃ id, task = .receive id
  · obtain ⟨id, rfl⟩ := receives
    rw [act]
    cases steps : live.taskStep (.receive id) with
    | some next => exact tallies_receive staffed sound steps
    | none =>
        rw [unsubscribed_of_none steps, Nat.zero_add]
        exact (Wanes.refl live.hub).tallies sound sound
  · have apart (id : ConnectionId) : task ≠ .receive id := fun same => receives ⟨id, same⟩
    have none : live.unsubscribed (.work task) = 0 := by
      cases task with
      | receive id => exact absurd rfl (apart id)
      | _ => rfl
    have wanes : Wanes live.hub (live.act (.work task)).hub := by
      rcases act_work live task with idle | steps
      · rw [idle]
        exact .refl live.hub
      · exact wanes_taskStep staffed steps apart
    rw [none, Nat.zero_add]
    exact wanes.tallies sound soundNext

theorem tallies_act (staffed : live.Staffed) (sound : live.hub.Sound) (action : Action) :
    Tallies live.hub (live.removed action) (live.act action).hub := by
  have wellFormed := staffed.wellFormed
  have soundNext := sound_run sound [action]
  rw [run_cons, run_nil] at soundNext
  have waning (none : live.unsubscribed action = 0)
      (wanes : Wanes live.hub (live.act action).hub) :
      Tallies live.hub (live.removed action) (live.act action).hub := by
    rw [removed, none, Nat.zero_add]
    exact wanes.tallies sound soundNext
  have unchanged (none : live.unsubscribed action = 0)
      (same : (live.act action).hub = live.hub) :
      Tallies live.hub (live.removed action) (live.act action).hub :=
    waning none (by rw [same]; exact .refl live.hub)
  cases action with
  | hub operation =>
      by_cases staid : operation.isStaid = true
      · refine waning ?_ (Hub.wanes_apply wellFormed staid)
        cases operation with
        | unsubscribe id events => cases staid
        | _ => rfl
      · cases operation with
        | register id identity version =>
            have none : live.unsubscribed (.hub (.register id identity version)) = 0 := rfl
            rw [removed, none, Nat.zero_add]
            exact Hub.tallies_admission wellFormed id identity version
        | subscribe id events clusters =>
            have obeyed : Hub.Quiet (live.hub.obey id (some (.subscribe events clusters))) _ :=
              .refl soundNext.wellFormed
            exact obeyed.tallies_obey sound
        | unsubscribe id events =>
            have obeyed : Hub.Quiet (live.hub.obey id (some (.unsubscribe events))) _ :=
              .refl soundNext.wellFormed
            exact obeyed.tallies_obey sound
        | route event => exact waning rfl (Hub.wanes_route wellFormed event)
        | _ => exact absurd rfl staid
  | publish event => exact unchanged rfl (live.hub_publish event)
  | routeNext => exact waning rfl (wanes_routeNext wellFormed)
  | startSession id failAfter stallAfter =>
      refine waning rfl ?_
      rw [act]
      cases starts : Session.start live.hub id { failAfter, stallAfter } with
      | none =>
          rw [startSession_eq_none starts]
          exact .refl live.hub
      | some started =>
          rw [startSession_eq_some starts]
          exact ((Session.chores_start wellFormed starts).quiet wellFormed).wanes
  | receive id frame => exact unchanged rfl (live.hub_receive id frame)
  | beginClose id reason =>
      have begun : Wanes live.hub (live.hub.apply (.beginClose id reason)) :=
        Hub.wanes_apply wellFormed rfl
      rw [Hub.apply, ← hub_beginClose] at begun
      exact waning rfl begun
  | closeIngest | limitSink _ _ _ | passTime _ _ | setRouting _ | setMonitor _ =>
      exact unchanged rfl rfl
  | work task => exact tallies_work staffed sound task

theorem tallies_run (staffed : live.Staffed) (sound : live.hub.Sound) (actions : List Action) :
    Tallies live.hub (live.removedIn actions) (live.run actions).hub := by
  induction actions generalizing live with
  | nil => rfl
  | cons action rest ih =>
      have first := tallies_act staffed sound action
      have later := ih (staffed.act action) (sound_run sound [action])
      rw [run_cons, removedIn]
      rw [Tallies] at first later ⊢
      omega

/-! All of it. -/

/-- The statistics, what is exported and what has happened say the same. -/
structure Reconciles (live : LiveHub) (metrics : Metrics) (log : List Routing) (removed : Nat) :
    Prop where
  registered : live.hub.statistics.currentConnections =
    Set.ncard {id | live.hub.isRegistered id = true}
  active : metrics.active = live.hub.statistics.currentConnections
  opened : metrics.opened = live.hub.statistics.totals.connections
  closed : live.hub.statistics.totals.connections =
    live.hub.statistics.currentConnections + metrics.closed.values.sum
  routed : metrics.eventsRouted = live.hub.statistics.totals.events
  events : live.hub.statistics.totals.events = log.length
  deliveries : metrics.deliveries = live.hub.statistics.totals.delivered
  enqueued : live.hub.statistics.totals.delivered = enqueues log
  dropped : metrics.dropped = live.hub.statistics.totals.dropped
  overflowed : live.hub.statistics.totals.dropped = overflows log
  evictions : metrics.evictions = live.hub.statistics.totals.evictions
  timeouts : live.hub.statistics.totals.evictions =
    (metrics.closed.get? .heartbeatTimeout).getD 0
  subscriptions : live.hub.statistics.currentSubscriptions + removed =
    live.hub.statistics.totals.subscriptions
  series : ∀ id, (metrics.gauges.get? id).isSome = true → live.hub.isRegistered id = true

theorem ncard_registered {hub : Hub} (wellFormed : hub.WellFormed) :
    Set.ncard {id | hub.isRegistered id = true} = hub.count := by
  have listed : {id | hub.isRegistered id = true} =
      (hub.registered.toFinset : Set ConnectionId) := by
    ext id
    simp [Hub.isRegistered_iff]
  rw [listed, Set.ncard_coe_finset, List.toFinset_card_of_nodup wellFormed.distinct, Hub.count]

/-- Whatever a hub has been through: when no close waits, its statistics, the metrics it has
reported to and what has happened agree. -/
theorem statistics_reconcile (config : HubConfig) {actions : List Action}
    (whole : ∀ action ∈ actions, action.isWhole = true)
    (closed : ((idle config).run actions).closings = [])
    (requests : Table RequestLabels RequestTally) (activeRequests : Nat) :
    ((idle config).run actions).Reconciles
      (Metrics.withReports { requests, activeRequests } ((idle config).run actions).hub.reports)
      ((idle config).routings actions) ((idle config).removedIn actions) := by
  have staffed := staffed_idle config
  have ledger := ledger_run staffed (.of_config requests activeRequests config) whole
  have counts := counts_run staffed actions
  have tallies := tallies_run staffed (sound_idle config) actions
  have nobody : ((idle config).run actions).leaving = [] := by rw [leaving, closed, List.map_nil]
  rw [nobody] at ledger
  constructor
  case registered => exact (ncard_registered ledger.wellFormed).symm
  case active => exact ledger.active.trans (Int.add_zero _)
  case opened => exact ledger.opened
  case closed => exact ledger.closed
  case routed => exact ledger.routed
  case events => exact counts.events.trans (Nat.zero_add _)
  case deliveries => exact ledger.delivered
  case enqueued => exact counts.delivered.trans (Nat.zero_add _)
  case dropped => exact ledger.dropped
  case overflowed => exact counts.dropped.trans (Nat.zero_add _)
  case evictions => exact ledger.evictions
  case timeouts => exact ledger.timeouts.symm
  case subscriptions => exact tallies.trans (Nat.zero_add _)
  case series =>
    intro id present
    exact (ledger.series id present).resolve_right fun absent => nomatch absent

/-- Two clients come; one gives a subscription up, the other is closed while no session answers, and
then events are routed and the monitor passes by. -/
def twoClients : List Action :=
  [.hub (.register "c" { subject := "s" } 1), .hub (.register "d" { subject := "s" } 1),
    .hub (.subscribe "c" ["alert", "status"] []), .hub (.subscribe "d" ["alert"] []),
    .hub (.unsubscribe "c" ["status"]), .beginClose "d" .serverShutdown, .passTime 5 5,
    .work (.close "d"), .hub (.route ⟨"alert", "west", .null, 0⟩),
    .hub (.route ⟨"alert", "west", .null, 1⟩), .hub (.tick 60000 0)]

theorem statistics_reconcile_two_clients :
    ((idle { teardownGrace := 5 }).run twoClients).closings = [] ∧
      ((idle { teardownGrace := 5 }).run twoClients).Reconciles
        (Metrics.withReports {} ((idle { teardownGrace := 5 }).run twoClients).hub.reports)
        ((idle { teardownGrace := 5 }).routings twoClients)
        ((idle { teardownGrace := 5 }).removedIn twoClients) := by
  have whole : ∀ action ∈ twoClients, action.isWhole = true := by decide
  have closed : ((idle { teardownGrace := 5 }).run twoClients).closings = [] := by rfl
  exact ⟨closed, statistics_reconcile _ whole closed ∅ 0⟩

end LiveHub

end EventHub
