import EventHub.Proofs.Hub.Alike
import EventHub.Proofs.Hub.Verdict

/-!
What a pass of the heartbeat monitor tells. Every verdict depends on the standing of its own
connection before the pass, so the report can be read off the registry, whatever its order; and the
closes a pass decides on may begin and end among each other as they please.
-/

namespace EventHub

/-- What the metrics hear of the turn of an open connection, latest first. -/
def Connection.turnReports (config : HeartbeatConfig) (now : Instant) (stamp : UInt64)
    (connection : Connection) : List Report :=
  .sampled (connection.attend config now stamp).1.sample ::
    if connection.heartbeat.missed < (connection.heartbeat.tick config now).1.missed then
      [.missed connection.id (connection.heartbeat.tick config now).1.missed]
    else []

def Standing.turnReports (config : HeartbeatConfig) (now : Instant) (stamp : UInt64)
    (standing : Standing) : List Report :=
  match standing.connection with
  | some connection =>
      if standing.registered && connection.isOpen then connection.turnReports config now stamp
      else []
  | .none => []

namespace Hub

def turnReports (hub : Hub) (now : Instant) (stamp : UInt64) (id : ConnectionId) : List Report :=
  (hub.standing id).turnReports hub.config.heartbeat now stamp

variable {hub : Hub}

/-! One turn. -/

theorem pinged_visit (now : Instant) (stamp : UInt64) (connection : Connection) :
    (hub.visit now stamp connection).2.pinged =
      if connection.verdict hub.config.heartbeat now = .pinged then 1 else 0 := by
  rw [Connection.verdict]
  cases ticking : connection.heartbeat.tick hub.config.heartbeat now with
  | mk heartbeat action =>
      simp only [visit, Connection.heartbeatTick, ticking]
      cases action with
      | wait => rfl
      | evict => rfl
      | sendPing =>
          simp only [ping, Connection.sendControl]
          cases takes : connection.control.takes with
          | true =>
              rw [ControlQueue.send_of_takes takes]
              rfl
          | false =>
              obtain ⟨cause, refused⟩ := ControlQueue.send_of_not_takes takes
                (ServerMessage.ping stamp).toPayload
              rw [refused]
              rfl

theorem reports_visit (wellFormed : hub.WellFormed) {id : ConnectionId} {connection : Connection}
    (found : hub.get? id = some connection) (opened : connection.isOpen = true) (now : Instant)
    (stamp : UInt64) :
    (hub.visit now stamp connection).1.reports =
      connection.turnReports hub.config.heartbeat now stamp ++ hub.reports := by
  obtain rfl : connection.id = id := wellFormed.named id connection found
  have effect := (effect_visit wellFormed found now stamp).1.standing connection.id
  rw [Standing.onlyAt_self] at effect
  have attended : (hub.visit now stamp connection).1.get? connection.id =
      some (connection.attend hub.config.heartbeat now stamp).1 := by
    have after := congrArg Standing.connection effect
    simpa [standing, Standing.amend, found] using after
  have stillOpen : (connection.attend hub.config.heartbeat now stamp).1.isOpen = true :=
    (connection.sameEnd_attend hub.config.heartbeat now stamp).isOpen.trans opened
  -- The sample comes last, and it is of the connection as the turn leaves it.
  obtain ⟨before, sampled, told⟩ : ∃ before : Hub,
      (hub.visit now stamp connection).1 = before.reportSample connection.id ∧
      before.reports =
        (if connection.heartbeat.missed <
            (connection.heartbeat.tick hub.config.heartbeat now).1.missed then
          [.missed connection.id (connection.heartbeat.tick hub.config.heartbeat now).1.missed]
        else []) ++ hub.reports := by
    rw [visit, Connection.heartbeatTick]
    cases connection.heartbeat.tick hub.config.heartbeat now with
    | mk heartbeat action =>
        have noted : ((hub.put { connection with heartbeat }).reportMiss connection
            { connection with heartbeat }).reports =
            (if connection.heartbeat.missed < heartbeat.missed then
              [.missed connection.id heartbeat.missed] else []) ++ hub.reports := by
          rw [reportMiss]
          split <;> rfl
        refine ⟨_, rfl, ?_⟩
        cases action with
        | wait => exact noted
        | evict => exact noted
        | sendPing =>
            simp only [ping]
            split <;> exact noted
  have get?_eq : before.get? connection.id =
      (before.reportSample connection.id).get? connection.id := by
    rw [reportSample]
    split
    · split <;> rfl
    · rfl
  rw [sampled] at attended
  rw [sampled, reportSample, get?_eq, attended]
  simp only [stillOpen, if_true, report, told]
  rfl

theorem surveyStep_tells (state : Hub × MonitorReport) (wellFormed : state.1.WellFormed)
    (now : Instant) (stamp : UInt64) (id : ConnectionId)
    (registered : state.1.isRegistered id = true) :
    (surveyStep now stamp state id).2.pinged =
        state.2.pinged + (if state.1.verdict? now id = some .pinged then 1 else 0) ∧
      (surveyStep now stamp state id).1.reports =
        state.1.turnReports now stamp id ++ state.1.reports := by
  have isRegistered : (state.1.standing id).registered = true := registered
  rw [surveyStep, verdict?, turnReports, Standing.verdict?, Standing.turnReports, isRegistered]
  cases found : state.1.get? id with
  | none =>
      have absent : (state.1.standing id).connection = none := found
      simp [Standing.isOpen, absent]
  | some connection =>
      have present : (state.1.standing id).connection = some connection := found
      by_cases opened : connection.isOpen = true
      · simp [Standing.isOpen, present, opened, pinged_visit,
          reports_visit wellFormed found opened]
      · simp [Standing.isOpen, present, opened]

/-! The survey. -/

theorem survey_tells (now : Instant) (stamp : UInt64) {ids : List ConnectionId}
    (distinct : ids.Nodup) (state : Hub × MonitorReport) (wellFormed : state.1.WellFormed)
    (registered : ∀ id ∈ ids, state.1.isRegistered id = true) :
    (ids.foldl (surveyStep now stamp) state).2 =
        { pinged := state.2.pinged + ids.countP fun id => state.1.verdict? now id = some .pinged
          evicted := state.2.evicted ++
            ids.filter fun id => state.1.verdict? now id = some .evicted } ∧
      (ids.foldl (surveyStep now stamp) state).1.reports =
        ids.reverse.flatMap (state.1.turnReports now stamp) ++ state.1.reports := by
  induction ids generalizing state with
  | nil => simp
  | cons head rest ih =>
      obtain ⟨absent, distinct⟩ := List.nodup_cons.1 distinct
      have headRegistered := registered head List.mem_cons_self
      obtain ⟨turnEffect, evicted⟩ :=
        effect_surveyStep state wellFormed now stamp head headRegistered
      obtain ⟨pinged, told⟩ := surveyStep_tells state wellFormed now stamp head headRegistered
      have apart {id : ConnectionId} (member : id ∈ rest) :
          (surveyStep now stamp state head).1.standing id = state.1.standing id := by
        rw [turnEffect.standing, Standing.onlyAt, if_neg (ne_of_mem_of_not_mem member absent)]
      have sameVerdict {id : ConnectionId} (member : id ∈ rest) :
          (surveyStep now stamp state head).1.verdict? now id = state.1.verdict? now id := by
        rw [verdict?, apart member, turnEffect.config, verdict?]
      have sameReports {id : ConnectionId} (member : id ∈ rest) :
          (surveyStep now stamp state head).1.turnReports now stamp id =
            state.1.turnReports now stamp id := by
        rw [turnReports, apart member, turnEffect.config, turnReports]
      obtain ⟨report, reports⟩ := ih distinct (surveyStep now stamp state head)
        turnEffect.wellFormed fun id member =>
          (congrArg Standing.registered (apart member)).trans
            (registered id (List.mem_cons_of_mem _ member))
      constructor
      · rw [List.foldl_cons, report, pinged, evicted, List.countP_cons, List.filter_cons,
          List.countP_congr fun id member => by rw [sameVerdict member],
          List.filter_congr fun id member => by rw [sameVerdict member]]
        simp only [Standing.isCondemned_iff, decide_eq_true_eq, MonitorReport.mk.injEq]
        refine ⟨by omega, ?_⟩
        rw [List.append_assoc, verdict?]
        split <;> rfl
      · rw [List.foldl_cons, reports, told, List.reverse_cons, List.flatMap_append,
          List.flatMap_singleton, List.append_assoc]
        congr 1
        exact List.flatMap_congr fun id member => sameReports (List.mem_reverse.1 member)

theorem survey_report (wellFormed : hub.WellFormed) (now : Instant) (stamp : UInt64) :
    (hub.survey now stamp).2 =
      { pinged := hub.registered.countP fun id => hub.verdict? now id = some .pinged
        evicted := hub.registered.filter fun id => hub.verdict? now id = some .evicted } := by
  rw [survey_eq, (survey_tells now stamp wellFormed.distinct (hub, {}) wellFormed
    fun id => isRegistered_iff.2).1, Nat.zero_add, List.nil_append]

theorem survey_reports (wellFormed : hub.WellFormed) (now : Instant) (stamp : UInt64) :
    (hub.survey now stamp).1.reports =
      hub.registered.reverse.flatMap (hub.turnReports now stamp) ++ hub.reports := by
  rw [survey_eq, (survey_tells now stamp wellFormed.distinct (hub, {}) wellFormed
    fun id => isRegistered_iff.2).2]

end Hub

/-! Closes side by side. -/

/-- A step of one of several closes. -/
inductive ClosePart where
  | begins (id : ConnectionId)
  | ends (id : ConnectionId)
  deriving DecidableEq

namespace ClosePart

def connection : ClosePart → ConnectionId
  | begins id | ends id => id

def ended? : ClosePart → Option ConnectionId
  | begins _ => none
  | ends id => some id

def operation (reason : CloseReason) : ClosePart → Hub.Operation
  | begins id => .beginClose id reason
  | ends id => .finishClose id reason

/-- Each of the connections is closed once; the parts of different closes come in any order. -/
def SideBySide (ids : List ConnectionId) (parts : List ClosePart) : Prop :=
  ∀ id, (parts.filter fun part => part.connection = id) =
    if id ∈ ids then [begins id, ends id] else []

variable {ids : List ConnectionId} {parts : List ClosePart}

theorem SideBySide.ended (apart : SideBySide ids parts) (distinct : ids.Nodup) :
    (parts.filterMap ended?).Perm ids := by
  rw [List.perm_iff_count]
  intro id
  have own (part : ClosePart) : (part.ended? == some id) = true ↔
      (part.ended? == some id && decide (part.connection = id)) = true := by
    cases part with
    | begins other => simp [ended?]
    | ends other => by_cases same : other = id <;> simp [ended?, connection, same]
  rw [List.count_filterMap, List.countP_congr fun part _ => own part, ← List.countP_filter,
    apart id, distinct.count]
  split
  · simp [ended?]
  · rfl

/-- One close after the other. -/
def inTurn (ids : List ConnectionId) : List ClosePart :=
  ids.flatMap fun id => [begins id, ends id]

theorem sideBySide_inTurn (distinct : ids.Nodup) : SideBySide ids (inTurn ids) := by
  induction ids with
  | nil => exact fun id => rfl
  | cons head rest ih =>
      obtain ⟨absent, distinct⟩ := List.nodup_cons.1 distinct
      intro id
      have later := ih distinct id
      rw [inTurn] at later ⊢
      rw [List.flatMap_cons, List.filter_append, later]
      by_cases own : id = head
      · subst own
        simp [connection, absent]
      · simp [connection, own, Ne.symm own]

theorem filter_map_connection {part : ConnectionId → ClosePart}
    (named : ∀ id, (part id).connection = id) (distinct : ids.Nodup) (id : ConnectionId) :
    ((ids.map part).filter fun part => part.connection = id) =
      if id ∈ ids then [part id] else [] := by
  have own : ((fun part : ClosePart => decide (part.connection = id)) ∘ part) =
      fun other => decide (other = id) := by
    funext other
    rw [Function.comp, named]
  rw [List.filter_map, own, List.filter_eq, distinct.count]
  split <;> rfl

/-- All closes begin, and then they end, in whatever order. -/
theorem sideBySide_of_perm {endings : List ConnectionId} (distinct : ids.Nodup)
    (same : endings.Perm ids) : SideBySide ids (ids.map begins ++ endings.map ends) := by
  intro id
  rw [List.filter_append, filter_map_connection (fun _ => rfl) distinct,
    filter_map_connection (fun _ => rfl) (same.nodup_iff.2 distinct)]
  simp only [same.mem_iff]
  split <;> rfl

end ClosePart

theorem Standing.closeReason_leave {standing : Standing} {reason : CloseReason}
    (agrees : standing.closeReason.getD reason = reason) :
    (standing.leave reason).closeReason.getD reason = reason := by
  rw [Standing.leave]
  split
  · cases found : standing.connection with
    | none => simp [closeReason, Standing.beginDraining, amend, found]
    | some connection =>
        have given : connection.closeReason.getD reason = reason := by
          simpa [closeReason, found] using agrees
        simp only [closeReason, Standing.beginDraining, amend, found, Option.map_some,
          Option.bind_some, Connection.beginDraining]
        split
        · exact given
        · exact given
  · exact agrees

theorem Standing.closeReason_markClosed (standing : Standing) :
    (standing.amend Connection.markClosed).closeReason = standing.closeReason := by
  cases found : standing.connection with
  | none => simp [closeReason, amend, found]
  | some connection => simp [closeReason, amend, found, Connection.markClosed]

namespace Hub

variable {hub : Hub} {ids : List ConnectionId} {parts : List ClosePart}

theorem concerns_closePart (hub : Hub) (id : ConnectionId) (reason : CloseReason)
    (part : ClosePart) :
    hub.concerns id (part.operation reason) = decide (part.connection = id) := by
  cases part <;> rfl

theorem own_closeParts (hub : Hub) (id : ConnectionId) (reason : CloseReason)
    (parts : List ClosePart) :
    own id hub (parts.map (ClosePart.operation reason)) =
      (parts.filter fun part => part.connection = id).map (ClosePart.operation reason) := by
  induction parts generalizing hub with
  | nil => rfl
  | cons part rest ih =>
      rw [List.map_cons, own, concerns_closePart, ih, List.filter_cons]
      split <;> rfl

theorem standing_closeParts (wellFormed : hub.WellFormed)
    (apart : ClosePart.SideBySide ids parts)
    (registered : ∀ id ∈ ids, hub.isRegistered id = true) (reason : CloseReason)
    (id : ConnectionId) :
    (hub.run (parts.map (ClosePart.operation reason))).standing id =
      if id ∈ ids then (hub.standing id).close reason else hub.standing id := by
  rw [standing_run wellFormed, own_closeParts, apart id]
  split
  · rename_i member
    have isRegistered : (hub.standing id).registered = true := registered id member
    rw [Standing.close, if_pos isRegistered]
    rfl
  · rfl

theorem beginClose?_tells_nothing {next : Hub} {id : ConnectionId} {reason : CloseReason}
    (begun : hub.beginClose? id reason = some next) :
    next.totals = hub.totals ∧ next.reports = hub.reports := by
  obtain ⟨detached, detaches, rfl⟩ := Option.map_eq_some_iff.1 begun
  obtain ⟨-, rfl⟩ := detach?_eq_some_iff.1 detaches
  rw [beginDraining]
  split <;> exact ⟨rfl, rfl⟩

theorem finishClose_tells (id : ConnectionId)
    (agrees : (hub.standing id).closeReason.getD .heartbeatTimeout = .heartbeatTimeout) :
    (hub.finishClose id .heartbeatTimeout).totals =
        { hub.totals with evictions := hub.totals.evictions + 1 } ∧
      (hub.finishClose id .heartbeatTimeout).reports =
        .closed id .heartbeatTimeout :: hub.reports := by
  have recorded : ((hub.get? id).bind Connection.closeReason).getD .heartbeatTimeout =
      .heartbeatTimeout := agrees
  rw [finishClose, recorded, countEviction, if_pos rfl]
  exact ⟨rfl, rfl⟩

/-- Whoever has no other reason on record is evicted when its close ends. -/
theorem books_closeParts (wellFormed : hub.WellFormed)
    (agree : ∀ part ∈ parts,
      (hub.standing part.connection).closeReason.getD .heartbeatTimeout = .heartbeatTimeout) :
    (hub.run (parts.map (ClosePart.operation .heartbeatTimeout))).totals =
        { hub.totals with
          evictions := hub.totals.evictions + (parts.filterMap ClosePart.ended?).length } ∧
      (hub.run (parts.map (ClosePart.operation .heartbeatTimeout))).reports =
        (parts.filterMap ClosePart.ended?).reverse.map (.closed · .heartbeatTimeout) ++
          hub.reports := by
  induction parts generalizing hub with
  | nil => exact ⟨rfl, rfl⟩
  | cons part rest ih =>
      obtain ⟨agreesHead, agreeRest⟩ := List.forall_mem_cons.1 agree
      have effect := effect_apply wellFormed (part.operation .heartbeatTimeout)
      have kept : ∀ other ∈ rest,
          ((hub.apply (part.operation .heartbeatTimeout)).standing
            other.connection).closeReason.getD .heartbeatTimeout = .heartbeatTimeout := by
        intro other member
        have agrees := agreeRest other member
        rw [effect.standing]
        split
        · cases part with
          | begins id => exact Standing.closeReason_leave agrees
          | ends id => exact (Standing.closeReason_markClosed _).symm ▸ agrees
        · exact agrees
      obtain ⟨totals, reports⟩ := ih effect.wellFormed kept
      rw [List.map_cons, run_cons, totals, reports]
      cases part with
      | begins id =>
          have quietly : (hub.apply (.beginClose id .heartbeatTimeout)).totals = hub.totals ∧
              (hub.apply (.beginClose id .heartbeatTimeout)).reports = hub.reports := by
            rw [Hub.apply]
            cases begun : hub.beginClose? id .heartbeatTimeout with
            | none => exact ⟨rfl, rfl⟩
            | some next => exact beginClose?_tells_nothing begun
          rw [ClosePart.operation, quietly.1, quietly.2]
          exact ⟨rfl, rfl⟩
      | ends id =>
          obtain ⟨counted, told⟩ := finishClose_tells id agreesHead
          rw [ClosePart.operation, Hub.apply, counted, told,
            List.filterMap_cons_some (show (ClosePart.ends id).ended? = some id from rfl)]
          simp [Nat.add_right_comm, Nat.add_assoc]

theorem closeAll_eq_run (wellFormed : hub.WellFormed) (distinct : ids.Nodup)
    (registered : ∀ id ∈ ids, hub.isRegistered id = true) (reason : CloseReason) :
    hub.closeAll reason ids =
      hub.run ((ClosePart.inTurn ids).map (ClosePart.operation reason)) := by
  induction ids generalizing hub with
  | nil => rfl
  | cons head rest ih =>
      obtain ⟨absent, distinct⟩ := List.nodup_cons.1 distinct
      obtain ⟨headRegistered, registered⟩ := List.forall_mem_cons.1 registered
      have effect := effect_close wellFormed head reason
      have still : ∀ id ∈ rest, (hub.close head reason).1.isRegistered id = true := by
        intro id member
        have same := effect.standing id
        rw [Standing.onlyAt, if_neg (ne_of_mem_of_not_mem member absent)] at same
        exact (congrArg Standing.registered same).trans (registered id member)
      have closed : (hub.close head reason).1 =
          (hub.apply (.beginClose head reason)).apply (.finishClose head reason) := by
        obtain ⟨closing, begun⟩ := Option.isSome_iff_exists.1
          ((hub.isSome_beginClose? head reason).trans headRegistered)
        rw [close, begun, apply, begun]
        rfl
      have later := ih effect.wellFormed distinct still
      rw [closed] at later
      rw [closeAll, List.foldl_cons, closed]
      exact later

end Hub

end EventHub
