import EventHub.Proofs.Live.Batch
import EventHub.Proofs.Live.Pass

/-!
The heartbeat monitor of a hub at work. A pass puts its verdicts in place at once; its closes begin
together and are awaited like those of a shutdown, while everybody else goes on.
-/

namespace EventHub

namespace Hub

/-- The timeouts that were reported of other connections than these. -/
def timeoutsBeside (hub : Hub) (ids : List ConnectionId) : Nat :=
  hub.departures.countP fun departure => departure.2 = .heartbeatTimeout ∧ departure.1 ∉ ids

variable {hub : Hub} {ids : List ConnectionId}

theorem timeoutsBeside_cons {id : ConnectionId} (absent : id ∉ ids) :
    hub.timeoutsBeside ids =
      (hub.reasonsFor id).count .heartbeatTimeout + hub.timeoutsBeside (id :: ids) := by
  rw [timeoutsBeside, List.countP_eq_countP_filter_add _ _ fun departure => departure.1 = id]
  congr 1
  · rw [reasonsFor, List.count, List.countP_map]
    refine List.countP_congr fun departure member => ?_
    have isId : departure.1 = id := by simpa using (List.mem_filter.1 member).2
    simp [isId, absent]
  · rw [timeoutsBeside, List.countP_filter]
    refine List.countP_congr fun departure _ => ?_
    simp [and_comm, and_left_comm]

/-- The statistic of evictions, by the share that each of some connections has in it. -/
theorem Tallied.evictions_eq (tallied : hub.Tallied) (distinct : ids.Nodup) {share : Nat}
    (each : ∀ id ∈ ids, (hub.reasonsFor id).count .heartbeatTimeout = share) :
    hub.totals.evictions = ids.length * share + hub.timeoutsBeside ids := by
  induction ids with
  | nil =>
      rw [tallied, timeoutsBeside]
      simp
  | cons id rest ih =>
      obtain ⟨absent, distinct⟩ := List.nodup_cons.1 distinct
      obtain ⟨own, each⟩ := List.forall_mem_cons.1 each
      rw [ih distinct each, timeoutsBeside_cons absent, own, List.length_cons, Nat.succ_mul,
        Nat.add_assoc]

/-- The reason on record goes before the one a close was asked with. -/
theorem finishClose_of_recorded {hub : Hub} {id : ConnectionId} {reason : CloseReason}
    (recorded : (hub.standing id).closeReason = some reason) (asked other : CloseReason) :
    hub.finishClose id asked = hub.finishClose id other := by
  have given : (hub.get? id).bind Connection.closeReason = some reason := recorded
  simp only [finishClose, given, Option.getD_some]

end Hub

namespace LiveHub

variable {live : LiveHub}

/-- The close of this connection waits for nothing but its turn. -/
structure Due (live : LiveHub) (id : ConnectionId) : Prop where
  closing : ∃ closing ∈ live.closings, closing.id = id
  settled : (live.hub.get? id).all Connection.settled = true
  recorded : (live.hub.standing id).closeReason = some .heartbeatTimeout

theorem finishStep_of_due {id : ConnectionId} (due : live.Due id) :
    live.finishStep id = some
      { live with
        hub := live.hub.finishClose id .heartbeatTimeout
        closings := live.closings.filter fun other => other.id ≠ id } := by
  obtain ⟨closing, member, own⟩ := due.closing
  obtain ⟨first, found⟩ : ∃ first, live.closings.find? (fun closing => closing.id == id) =
      some first := by
    rw [← Option.isSome_iff_exists, List.find?_isSome]
    exact ⟨closing, member, by simpa using own⟩
  have firstId : first.id = id := by simpa using List.find?_some found
  have canFinish : live.canFinish first = true := by
    rw [LiveHub.canFinish, firstId, due.settled, Bool.true_or]
  rw [finishStep, found]
  simp only [canFinish, if_true]
  rw [Hub.finishClose_of_recorded due.recorded first.reason .heartbeatTimeout]

theorem finishCloses_of_due (wellFormed : live.hub.WellFormed) {ids : List ConnectionId}
    (distinct : ids.Nodup) (due : ∀ id ∈ ids, live.Due id) :
    (live.finishCloses ids).hub =
        live.hub.run ((ids.map ClosePart.ends).map (ClosePart.operation .heartbeatTimeout)) ∧
      (live.finishCloses ids).closings =
        live.closings.filter fun closing => closing.id ∉ ids := by
  induction ids generalizing live with
  | nil => exact ⟨rfl, (List.filter_eq_self.2 fun _ _ => by simp).symm⟩
  | cons head rest ih =>
      obtain ⟨absent, distinct⟩ := List.nodup_cons.1 distinct
      obtain ⟨headDue, due⟩ := List.forall_mem_cons.1 due
      let next : LiveHub :=
        { live with
          hub := live.hub.finishClose head .heartbeatTimeout
          closings := live.closings.filter fun other => other.id ≠ head }
      have effect := Hub.effect_finishClose wellFormed head .heartbeatTimeout
      have stillDue : ∀ id ∈ rest, next.Due id := by
        intro id member
        have apart : id ≠ head := ne_of_mem_of_not_mem member absent
        have same : next.hub.standing id = live.hub.standing id := by
          rw [effect.standing, Standing.onlyAt, if_neg apart]
        obtain ⟨⟨closing, waits, own⟩, settled, recorded⟩ := due id member
        refine ⟨⟨closing, List.mem_filter.2 ⟨waits, ?_⟩, own⟩, ?_, ?_⟩
        · rw [own]
          exact decide_eq_true apart
        · have found : next.hub.get? id = live.hub.get? id := congrArg Standing.connection same
          rw [found]
          exact settled
        · rw [same]
          exact recorded
      obtain ⟨hub, closings⟩ := ih effect.wellFormed distinct stillDue
      have stepped : live.finishCloses (head :: rest) = next.finishCloses rest := by
        rw [finishCloses, List.foldl_cons, finishStep_of_due headDue]
        rfl
      rw [stepped, hub, closings, List.filter_filter]
      refine ⟨rfl, List.filter_congr fun closing _ => ?_⟩
      simp [Bool.and_comm]

theorem due_beginCloses {ids : List ConnectionId} (wellFormed : live.hub.WellFormed)
    (distinct : ids.Nodup) (each : ∀ id ∈ ids, live.hub.isRegistered id = true ∧
      ∃ connection, live.hub.get? id = some connection ∧ connection.isOpen = true ∧
        connection.closeReason = none ∧ connection.settled = true) :
    ∀ id ∈ ids, (live.beginCloses .heartbeatTimeout ids).Due id := by
  intro id member
  obtain ⟨-, connection, found, opened, unasked, settled⟩ := each id member
  have allRegistered (other : ConnectionId) (member : other ∈ ids) := (each other member).1
  have closing := closing_beginCloses live .heartbeatTimeout wellFormed distinct allRegistered id
    (.inl member)
  have left : (live.beginCloses .heartbeatTimeout ids).hub.get? id =
      some (connection.beginDraining .heartbeatTimeout).1 :=
    get?_begun .heartbeatTimeout wellFormed distinct allRegistered member found
  refine ⟨closing, ?_, ?_⟩
  · rw [left, Connection.beginDraining, if_pos opened]
    exact settled
  · rw [Hub.closeReason_standing left]
    exact (Connection.beginDraining_of_isOpen opened unasked _).2

/-- Closes that wait for no session end in the order in which they began. -/
theorem hub_awaitCloses_of_due {ids : List ConnectionId} (wellFormed : live.hub.WellFormed)
    (distinct : ids.Nodup) (due : ∀ id ∈ ids, live.Due id) :
    (live.awaitCloses ids).hub =
      live.hub.run ((ids.map ClosePart.ends).map (ClosePart.operation .heartbeatTimeout)) := by
  obtain ⟨hub, closings⟩ := finishCloses_of_due wellFormed distinct due
  have nothingLeft : (live.finishCloses ids).isClosing ids = false := by
    rw [isClosing, closings]
    simp
  rw [awaitCloses]
  simp only [nothingLeft, Bool.false_eq_true, if_false]
  exact hub

/-- The verdicts of a pass are in place, and its closes have not begun. -/
def surveyed (live : LiveHub) (now : Instant) : LiveHub :=
  live.act (.hub (.survey now live.stamp))

/-- Where no session has to be waited for, the pass is over as soon as its closes have begun. -/
theorem passes_tick_of_settled (sound : live.hub.Sound)
    (unasked : ∀ id, (live.hub.standing id).Unasked) (now : Instant)
    (settled : ∀ id ∈ (live.tick now).2.evicted,
      (live.hub.get? id).all Connection.settled = true) :
    live.hub.Passes now live.stamp (live.tick now).1.hub (live.tick now).2 := by
  have wellFormed := sound.wellFormed
  have visited := Hub.effect_survey wellFormed now live.stamp
  have distinct := Hub.nodup_evicted wellFormed now live.stamp
  let begun := (live.surveyed now).beginCloses .heartbeatTimeout (live.tick now).2.evicted
  have due : ∀ id ∈ (live.tick now).2.evicted, begun.Due id := by
    refine due_beginCloses visited.wellFormed distinct fun id member => ?_
    obtain ⟨connection, found, opened, noReason, after⟩ :=
      Hub.get?_survey_of_evicted wellFormed unasked member
    have isSettled := settled id member
    rw [found] at isSettled
    exact ⟨Hub.evicted_registered wellFormed now live.stamp id member, _, after, opened, noReason,
      isSettled⟩
  have hub_begun : begun.hub = (live.hub.survey now live.stamp).1.run
      (((live.tick now).2.evicted.map ClosePart.begins).map
        (ClosePart.operation .heartbeatTimeout)) := hub_beginCloses _ _ _
  have wellFormedBegun : begun.hub.WellFormed := by
    rw [hub_begun]
    exact Hub.wellFormed_run visited.wellFormed _
  have ticked : (live.tick now).1.hub = (live.hub.survey now live.stamp).1.run
      (((live.tick now).2.evicted.map ClosePart.begins ++
        (live.tick now).2.evicted.map ClosePart.ends).map
          (ClosePart.operation .heartbeatTimeout)) := by
    rw [List.map_append, Hub.run_append, ← hub_begun]
    exact hub_awaitCloses_of_due wellFormedBegun distinct due
  rw [ticked]
  exact Hub.passes_of_parts sound unasked now live.stamp
    (ClosePart.sideBySide_of_perm distinct (.refl _))

/-! Passes that have to wait. -/

/-- A pass on demand, whatever sessions it has to wait for. Its verdicts are in place before that,
and who is spared goes on meanwhile. -/
structure PassesInTime (live : LiveHub) (now : Instant) (outcome : LiveHub × MonitorReport) :
    Prop where
  report : outcome.2 = (live.hub.tick now live.stamp).2
  others : ∃ begun : LiveHub, begun.Drifts outcome.1 ∧ begun.clock = live.clock ∧
    begun.sessions = live.sessions ∧ ∀ id ∉ outcome.2.evicted,
      begun.hub.standing id = (live.hub.tick now live.stamp).1.standing id
  evicted : ∀ id ∈ outcome.2.evicted, outcome.1.hub.isRegistered id = false ∧
    outcome.1.hub.index.references id = false ∧
    ∃ last, outcome.1.hub.get? id = some last ∧ last.state = .closed ∧
      last.closeReason = some .heartbeatTimeout ∧
      outcome.1.hub.reasonsFor id = [.heartbeatTimeout]
  /-- Each eviction is counted once, beside those of other connections. -/
  evictions : live.hub.totals.evictions = live.hub.timeoutsBeside outcome.2.evicted ∧
    outcome.1.hub.totals.evictions =
      outcome.2.evicted.length + outcome.1.hub.timeoutsBeside outcome.2.evicted
  since : live.clock ≤ outcome.1.clock
  within : outcome.1.clock ≤ live.clock + live.hub.config.teardownGrace
  atOnce : (∀ id ∈ outcome.2.evicted, (live.hub.get? id).all Connection.settled = true) →
    outcome.1.clock = live.clock

theorem standing_begun_of_spared (wellFormed : live.hub.WellFormed) (now : Instant)
    {id : ConnectionId} (spared : id ∉ (live.tick now).2.evicted) :
    ((live.surveyed now).beginCloses .heartbeatTimeout (live.tick now).2.evicted).hub.standing id =
      (live.hub.tick now live.stamp).1.standing id := by
  have visited := Hub.effect_survey wellFormed now live.stamp
  have distinct : (live.tick now).2.evicted.Nodup :=
    Hub.nodup_evicted wellFormed now live.stamp
  have noVerdict : (live.hub.standing id).verdict? live.hub.config.heartbeat now ≠
      some .evicted := fun verdict =>
    spared ((Hub.mem_evicted_iff wellFormed now live.stamp id).2 verdict)
  rw [standing_beginCloses _ .heartbeatTimeout visited.wellFormed distinct, if_neg spared,
    surveyed, act, Hub.apply, visited.standing,
    (Hub.effect_tick wellFormed now live.stamp).standing, Standing.tick_eq, if_neg noVerdict]

section Evicted

variable {log : List CloseCall}

theorem Agrees.surveyed {id : ConnectionId} (agrees : live.Agrees id log) (now : Instant) :
    (live.surveyed now).Agrees id (log ++ live.calls (.hub (.survey now live.stamp))) :=
  agrees.act rfl

variable (agrees : ∀ id, live.Agrees id log) (unasked : ∀ id, (live.hub.standing id).Unasked)
include agrees

theorem seesThrough_tick (now : Instant) :
    (live.surveyed now).SeesThrough .heartbeatTimeout (live.tick now).2.evicted
      (live.tick now).1 := by
  have wellFormed := (agrees "").staffed.wellFormed
  exact seesThrough_closeBatch (fun id => (agrees id).surveyed now)
    (Hub.nodup_evicted wellFormed now live.stamp)
    (Hub.evicted_registered wellFormed now live.stamp) .heartbeatTimeout

theorem tallied_tick (now : Instant) : (live.tick now).1.hub.Tallied := by
  obtain ⟨_, agreesLast⟩ := (drifts_closeBatch (live.surveyed now) .heartbeatTimeout
    (live.tick now).2.evicted).agrees ((agrees "").surveyed now)
  exact agreesLast.heard.tallied

include unasked

theorem unreported_of_evicted {now : Instant} {id : ConnectionId}
    (member : id ∈ (live.tick now).2.evicted) : live.hub.reasonsFor id = [] := by
  obtain ⟨connection, found, -, noReason, -⟩ :=
    Hub.get?_survey_of_evicted (agrees id).staffed.wellFormed unasked member
  refine List.eq_nil_iff_forall_not_mem.2 fun reason told => ?_
  have given := (agrees id).heard.agreed reason told
  rw [Hub.closeReason_standing found, noReason] at given
  cases given

/-- Whoever is evicted was open until then, so that the eviction gives the reason. -/
theorem closed_tick {now : Instant} {id : ConnectionId}
    (member : id ∈ (live.tick now).2.evicted) :
    ∃ last, (live.tick now).1.hub.get? id = some last ∧ last.state = .closed ∧
      last.closeReason = some .heartbeatTimeout ∧
      (live.tick now).1.hub.reasonsFor id = [.heartbeatTimeout] := by
  obtain ⟨connection, -, opened, -, found⟩ :=
    Hub.get?_survey_of_evicted (agrees id).staffed.wellFormed unasked member
  obtain ⟨given, last, isGiven, -, ends⟩ :=
    (seesThrough_tick agrees now).closed id member _ found
  cases isGiven opened
  exact ⟨last, ends⟩

theorem evictions_tick (now : Instant) :
    live.hub.totals.evictions = live.hub.timeoutsBeside (live.tick now).2.evicted ∧
      (live.tick now).1.hub.totals.evictions = (live.tick now).2.evicted.length +
        (live.tick now).1.hub.timeoutsBeside (live.tick now).2.evicted := by
  have distinct : (live.tick now).2.evicted.Nodup :=
    Hub.nodup_evicted (agrees "").staffed.wellFormed now live.stamp
  constructor
  · have none : ∀ id ∈ (live.tick now).2.evicted,
        (live.hub.reasonsFor id).count .heartbeatTimeout = 0 := fun id member => by
      rw [unreported_of_evicted agrees unasked member, List.count_nil]
    rw [(agrees "").heard.tallied.evictions_eq distinct none, Nat.mul_zero, Nat.zero_add]
  · have once : ∀ id ∈ (live.tick now).2.evicted,
        ((live.tick now).1.hub.reasonsFor id).count .heartbeatTimeout = 1 := fun id member => by
      obtain ⟨_, -, -, -, reasons⟩ := closed_tick agrees unasked member
      rw [reasons, List.count_singleton_self]
    rw [(tallied_tick agrees now).evictions_eq distinct once, Nat.mul_one]

theorem passesInTime_tick (sound : live.hub.Sound) (now : Instant) :
    live.PassesInTime now (live.tick now) := by
  have wellFormed := sound.wellFormed
  have seesThrough := seesThrough_tick agrees now
  have config : (live.surveyed now).hub.config = live.hub.config :=
    (Hub.effect_survey wellFormed now live.stamp).config
  exact {
    report := rfl
    others := ⟨_, drifts_awaitCloses _ _, clock_beginCloses _ _ _, (beginCloses_frame _ _ _).2.1,
      fun id spared => standing_begun_of_spared wellFormed now spared⟩
    evicted := fun id member =>
      have unregistered := seesThrough.unregistered id member
      ⟨unregistered, ((reaches_tick live now).sound sound).not_references unregistered,
        closed_tick agrees unasked member⟩
    evictions := evictions_tick agrees unasked now
    since := seesThrough.since
    within := config ▸ seesThrough.within
    atOnce := fun settled => seesThrough.atOnce fun id member => by
      obtain ⟨connection, found, -, -, after⟩ :=
        Hub.get?_survey_of_evicted wellFormed unasked member
      have isSettled := settled id member
      rw [found] at isSettled
      exact after ▸ isSettled }

end Evicted

/-- One monitor pass over a hub at work, at any time and with any stamp. -/
structure PassesAnyhow (live : LiveHub) (now : Instant) (stamp : UInt64) : Prop where
  passes : live.hub.Passes now stamp (live.hub.tick now stamp).1 (live.hub.tick now stamp).2
  anyOrder : ∀ order parts, order.Perm live.hub.registered →
    ClosePart.SideBySide (live.hub.passAlong now stamp order parts).2.evicted parts →
    (live.hub.passAlong now stamp order parts).1.Alike (live.hub.tick now stamp).1 ∧
      (live.hub.passAlong now stamp order parts).2.pinged = (live.hub.tick now stamp).2.pinged ∧
      (live.hub.passAlong now stamp order parts).2.evicted.Perm (live.hub.tick now stamp).2.evicted
  /-- On demand, where no session has to be waited for. -/
  served : (∀ id ∈ (live.tick now).2.evicted,
      (live.hub.get? id).all Connection.settled = true) →
    live.hub.Passes now live.stamp (live.tick now).1.hub (live.tick now).2

theorem unasked_run_idle (config : HubConfig) (actions : List Action) (id : ConnectionId) :
    (((idle config).run actions).hub.standing id).Unasked := by
  obtain ⟨operations, reached⟩ := hub_run (sound_idle config).wellFormed actions
  rw [reached]
  exact Hub.unasked_run (sound_idle config).wellFormed (fun _ absent => nomatch absent) operations

/-- Whatever a hub has been through, a monitor pass treats everybody who is registered and open as
the verdict on them says, once, and leaves everybody else alone, in whatever order. If sessions have
to be waited for, nobody waits for longer than one grace period. -/
theorem monitor_pass (config : HubConfig) (actions : List Action) (now : Instant)
    (stamp : UInt64) :
    ((idle config).run actions).PassesAnyhow now stamp ∧
      ((∀ action ∈ actions, action.isWhole = true) →
        ((idle config).run actions).PassesInTime now (((idle config).run actions).tick now)) := by
  have sound := sound_run (sound_idle config) actions
  have mapped := mapped_run (Hub.mapped_ofConfig config) (sound_idle config).wellFormed actions
  have unasked := unasked_run_idle config actions
  constructor
  · exact {
      passes := Hub.passes_tick sound unasked now stamp
      anyOrder := fun order parts same apart =>
        Hub.passAlong_alike sound unasked mapped now stamp same apart
      served := passes_tick_of_settled sound unasked now }
  · intro whole
    exact passesInTime_tick (fun id => (agrees_idle config id).run whole) unasked sound now

/-- One client waits for its pong, one is new, and nobody reads what a third is sent, whose session
does not end. -/
def stuckClient : List Action :=
  [.hub (.register "a" { subject := "s" } 1), .hub (.tick 0 0),
    .hub (.register "b" { subject := "s" } 1), .hub (.register "c" { subject := "s" } 1),
    .startSession "c" none (some 0), .hub (.tend "c" .dropReader)]

theorem monitor_pass_stuck_client :
    (((idle {}).run stuckClient).tick 1).2 = { pinged := 1, evicted := ["c"] } ∧
      (((idle {}).run stuckClient).hub.get? "c").all Connection.settled = false ∧
      ((idle {}).run stuckClient).PassesInTime 1 (((idle {}).run stuckClient).tick 1) := by
  have whole : ∀ action ∈ stuckClient, action.isWhole = true := by decide
  exact ⟨by decide, by decide, (monitor_pass {} stuckClient 1 0).2 whole⟩

end LiveHub

end EventHub
