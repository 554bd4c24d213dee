import EventHub.Proofs.Hub.Pass
import EventHub.Proofs.Live.Membership
import Mathlib.Data.Set.Card

/-!
A whole pass of the heartbeat monitor over a hub that has been at work. Everybody open gets one
verdict and what follows from it, nobody else notices, and neither the order of the visits nor that
of the closes leaves a trace.
-/

namespace EventHub

namespace Hub

/-- What a pass at `now` makes of a hub, by the verdicts. -/
structure Passes (hub : Hub) (now : Instant) (stamp : UInt64) (next : Hub)
    (report : MonitorReport) : Prop where
  treated : ∀ id, (hub.verdict? now id).isSome = true ↔
    ∃ connection, hub.find? id = some connection ∧ connection.isOpen = true
  pinged : ∀ id connection, hub.get? id = some connection →
    hub.verdict? now id = some .pinged →
    next.get? id = some { connection with
      heartbeat := (connection.heartbeat.tick hub.config.heartbeat now).1
      control := { connection.control with
        waiting := connection.control.waiting ++ [(ServerMessage.ping stamp).toPayload] } }
  waits : ∀ id, hub.verdict? now id = some .waits → next.get? id = hub.get? id
  evicted : ∀ id connection, hub.get? id = some connection →
    hub.verdict? now id = some .evicted →
    next.isRegistered id = false ∧ next.index.references id = false ∧
      next.get? id = some { connection with
        heartbeat := (connection.heartbeat.tick hub.config.heartbeat now).1.markDead
        lifecycle := .closed
        closeReason := some .heartbeatTimeout
        cancelled := true }
  others : ∀ id, hub.verdict? now id = none → next.get? id = hub.get? id
  registered : next.registered.Perm
    (hub.registered.filter fun id => hub.verdict? now id ≠ some .evicted)
  subscriptions : ∀ id, hub.verdict? now id ≠ some .evicted →
    next.index.holding id = hub.index.holding id
  config : next.config = hub.config
  totals : next.totals =
    { hub.totals with evictions := hub.totals.evictions + report.evicted.length }
  /-- One sample for each connection that is treated, its miss if there is one, and the ends. -/
  told : ∃ told, next.reports = told ++ hub.reports ∧
    told.Perm (report.evicted.map (.closed · .heartbeatTimeout) ++
      hub.registered.flatMap (hub.turnReports now stamp))
  countPinged : report.pinged = Set.ncard {id | hub.verdict? now id = some .pinged}
  listEvicted : ∀ id, id ∈ report.evicted ↔ hub.verdict? now id = some .evicted
  once : report.evicted.Nodup

variable {hub : Hub} {parts : List ClosePart}

theorem registered_of_verdict {now : Instant} {id : ConnectionId} {verdict : Verdict}
    (given : hub.verdict? now id = some verdict) : id ∈ hub.registered := by
  obtain ⟨registered, -⟩ := Standing.verdict?_eq_some_iff.1 given
  exact isRegistered_iff.1 registered

theorem mem_evicted_iff (wellFormed : hub.WellFormed) (now : Instant) (stamp : UInt64)
    (id : ConnectionId) :
    id ∈ (hub.survey now stamp).2.evicted ↔ hub.verdict? now id = some .evicted := by
  rw [mem_evicted_survey wellFormed, Standing.isCondemned_iff, verdict?]

theorem nodup_evicted (wellFormed : hub.WellFormed) (now : Instant) (stamp : UInt64) :
    (hub.survey now stamp).2.evicted.Nodup := by
  rw [survey_report wellFormed]
  exact wellFormed.distinct.filter _

theorem evicted_registered (wellFormed : hub.WellFormed) (now : Instant) (stamp : UInt64) :
    ∀ id ∈ (hub.survey now stamp).2.evicted,
      (hub.survey now stamp).1.isRegistered id = true := by
  intro id evicted
  rw [(quiet_survey wellFormed now stamp).isRegistered]
  have verdict := (mem_evicted_iff wellFormed now stamp id).1 evicted
  exact isRegistered_iff.2 (registered_of_verdict verdict)

theorem standing_pass (wellFormed : hub.WellFormed) (now : Instant) (stamp : UInt64)
    (apart : ClosePart.SideBySide (hub.survey now stamp).2.evicted parts) (id : ConnectionId) :
    ((hub.survey now stamp).1.run
        (parts.map (ClosePart.operation .heartbeatTimeout))).standing id =
      (hub.standing id).tick hub.config.heartbeat now stamp := by
  have effect := effect_survey wellFormed now stamp
  rw [standing_closeParts effect.wellFormed apart (evicted_registered wellFormed now stamp),
    effect.standing, Standing.tick_eq]
  simp only [mem_evicted_iff wellFormed, verdict?]

theorem ncard_pinged (wellFormed : hub.WellFormed) (now : Instant) :
    Set.ncard {id | hub.verdict? now id = some .pinged} =
      hub.registered.countP fun id => hub.verdict? now id = some .pinged := by
  have listed : {id | hub.verdict? now id = some .pinged} =
      ((hub.registered.filter fun id => hub.verdict? now id = some .pinged).toFinset :
        Set ConnectionId) := by
    ext id
    simp only [Set.mem_ofPred_eq, List.coe_toFinset, List.mem_filter, decide_eq_true_eq]
    exact ⟨fun pinged => ⟨registered_of_verdict pinged, pinged⟩, And.right⟩
  rw [listed, Set.ncard_coe_finset, List.toFinset_card_of_nodup (wellFormed.distinct.filter _),
    List.countP_eq_length_filter]

theorem connection_mem_of_sideBySide {ids : List ConnectionId}
    (apart : ClosePart.SideBySide ids parts) {part : ClosePart} (member : part ∈ parts) :
    part.connection ∈ ids := by
  by_contra absent
  have nothing := apart part.connection
  rw [if_neg absent, List.filter_eq_nil_iff] at nothing
  exact nothing part member (decide_eq_true rfl)

/-- Whoever is evicted was open, so no reason is on record before the close. -/
theorem get?_survey_of_evicted (wellFormed : hub.WellFormed)
    (unasked : ∀ id, (hub.standing id).Unasked) {now : Instant} {stamp : UInt64}
    {id : ConnectionId} (evicted : id ∈ (hub.survey now stamp).2.evicted) :
    ∃ connection, hub.get? id = some connection ∧ connection.isOpen = true ∧
      connection.closeReason = none ∧
      (hub.survey now stamp).1.get? id = some { connection with
        heartbeat := (connection.heartbeat.tick hub.config.heartbeat now).1.markDead } := by
  have verdict := (mem_evicted_iff wellFormed now stamp id).1 evicted
  obtain ⟨-, connection, found, opened, isVerdict⟩ := Standing.verdict?_eq_some_iff.1 verdict
  refine ⟨connection, found, opened, unasked id connection found opened, ?_⟩
  have visited := (effect_survey wellFormed now stamp).standing id
  rw [(Standing.visit_of_verdict verdict found stamp).2,
    Connection.attend_eq_of_evicted isVerdict] at visited
  exact congrArg Standing.connection visited

theorem agrees_evicted (wellFormed : hub.WellFormed)
    (unasked : ∀ id, (hub.standing id).Unasked) {now : Instant} {stamp : UInt64}
    {id : ConnectionId} (evicted : id ∈ (hub.survey now stamp).2.evicted) :
    ((hub.survey now stamp).1.standing id).closeReason.getD .heartbeatTimeout =
      .heartbeatTimeout := by
  obtain ⟨connection, -, -, noReason, surveyed⟩ := get?_survey_of_evicted wellFormed unasked evicted
  rw [closeReason_standing surveyed, noReason]
  rfl

/-- However its closes go on side by side, a pass is what the verdicts say. -/
theorem passes_of_parts (sound : hub.Sound) (unasked : ∀ id, (hub.standing id).Unasked)
    (now : Instant) (stamp : UInt64)
    (apart : ClosePart.SideBySide (hub.survey now stamp).2.evicted parts) :
    hub.Passes now stamp
      ((hub.survey now stamp).1.run (parts.map (ClosePart.operation .heartbeatTimeout)))
      (hub.survey now stamp).2 := by
  have wellFormed := sound.wellFormed
  have surveyed := effect_survey wellFormed now stamp
  have stands := standing_pass wellFormed now stamp apart
  have soundAfter : Sound ((hub.survey now stamp).1.run
      (parts.map (ClosePart.operation .heartbeatTimeout))) :=
    (sound.apply (.survey now stamp)).run _
  have connection_eq (id : ConnectionId) := congrArg Standing.connection (stands id)
  have evicted_iff := mem_evicted_iff wellFormed now stamp
  have distinct := nodup_evicted wellFormed now stamp
  have ended := apart.ended distinct
  obtain ⟨totals, reports⟩ := books_closeParts surveyed.wellFormed fun part member =>
    agrees_evicted wellFormed unasked (connection_mem_of_sideBySide apart member)
  exact {
    treated := fun id => by
      rw [Option.isSome_iff_exists]
      simp only [verdict?_eq_some_iff]
      constructor
      · rintro ⟨_, connection, found, opened, -⟩
        exact ⟨connection, found, opened⟩
      · rintro ⟨connection, found, opened⟩
        exact ⟨_, connection, found, opened, rfl⟩
    pinged := fun id connection found pinged =>
      (connection_eq id).trans (Standing.connection_tick_of_pinged pinged found stamp)
    waits := fun id waits =>
      (connection_eq id).trans
        (congrArg Standing.connection (Standing.tick_of_spared (.inr waits) stamp))
    evicted := fun id connection found evicted => by
      obtain ⟨closed, left⟩ :=
        Standing.close_visit_of_evicted evicted found (unasked id connection found) stamp
      have ticked := (stands id).trans ((Standing.tick_eq stamp).trans (if_pos evicted))
      have unregistered := (congrArg Standing.registered ticked).trans left
      exact ⟨unregistered, soundAfter.not_references unregistered,
        (congrArg Standing.connection ticked).trans closed⟩
    others := fun id none =>
      (connection_eq id).trans
        (congrArg Standing.connection (Standing.tick_of_spared (.inl none) stamp))
    registered := by
      rw [List.perm_ext_iff_of_nodup soundAfter.wellFormed.distinct (wellFormed.distinct.filter _)]
      intro id
      rw [List.mem_filter, ← isRegistered_iff, ← isRegistered_iff, decide_eq_true_eq]
      have registered := congrArg Standing.registered (stands id)
      exact (Bool.eq_iff_iff.1 registered).trans (Standing.registered_tick stamp)
    subscriptions := fun id spared =>
      (congrArg Standing.holding (stands id)).trans (Standing.holding_tick spared stamp)
    config := (config_run surveyed.wellFormed _).trans surveyed.config
    totals := by
      rw [totals, (quiet_survey wellFormed now stamp).totals, ended.length_eq]
    told := by
      rw [survey_reports wellFormed] at reports
      refine ⟨_, reports.trans (List.append_assoc _ _ _).symm, ?_⟩
      refine ((List.reverse_perm _).trans ended).map _ |>.append ?_
      exact (List.reverse_perm _).flatMap_right _
    countPinged := by rw [survey_report wellFormed, ncard_pinged wellFormed]
    listEvicted := evicted_iff
    once := distinct }

theorem tick_eq_run (wellFormed : hub.WellFormed) (now : Instant) (stamp : UInt64) :
    (hub.tick now stamp).1 =
      (hub.survey now stamp).1.run
        ((ClosePart.inTurn (hub.survey now stamp).2.evicted).map
          (ClosePart.operation .heartbeatTimeout)) :=
  closeAll_eq_run (effect_survey wellFormed now stamp).wellFormed
    (nodup_evicted wellFormed now stamp) (evicted_registered wellFormed now stamp) _

theorem passes_tick (sound : hub.Sound) (unasked : ∀ id, (hub.standing id).Unasked)
    (now : Instant) (stamp : UInt64) :
    hub.Passes now stamp (hub.tick now stamp).1 (hub.tick now stamp).2 := by
  rw [tick_eq_run sound.wellFormed]
  exact passes_of_parts sound unasked now stamp
    (ClosePart.sideBySide_inTurn (nodup_evicted sound.wellFormed now stamp))

/-! Other orders. -/

/-- A pass that visits the connections in some order, with its closes side by side. -/
def passAlong (hub : Hub) (now : Instant) (stamp : UInt64) (order : List ConnectionId)
    (parts : List ClosePart) : Hub × MonitorReport :=
  let (surveyed, report) := { hub with registered := order }.survey now stamp
  (surveyed.run (parts.map (ClosePart.operation .heartbeatTimeout)), report)

theorem standing_reorder {order : List ConnectionId} (same : order.Perm hub.registered)
    (id : ConnectionId) :
    standing { hub with registered := order } id = hub.standing id := by
  have registered : isRegistered { hub with registered := order } id = hub.isRegistered id := by
    rw [Bool.eq_iff_iff, isRegistered_iff, isRegistered_iff]
    exact same.mem_iff
  rw [standing, registered]
  rfl

theorem verdict?_reorder {order : List ConnectionId} (same : order.Perm hub.registered)
    (now : Instant) (id : ConnectionId) :
    verdict? { hub with registered := order } now id = hub.verdict? now id := by
  rw [verdict?, standing_reorder same, verdict?]

theorem turnReports_reorder {order : List ConnectionId} (same : order.Perm hub.registered)
    (now : Instant) (stamp : UInt64) :
    turnReports { hub with registered := order } now stamp = hub.turnReports now stamp := by
  funext id
  rw [turnReports, standing_reorder same, turnReports]

theorem Sound.reorder (sound : hub.Sound) {order : List ConnectionId}
    (same : order.Perm hub.registered) : Sound { hub with registered := order } where
  wellFormed :=
    { named := sound.wellFormed.named
      known := fun id registered => sound.wellFormed.known id
        (isRegistered_iff.2 (same.mem_iff.1 (isRegistered_iff.1 registered)))
      distinct := same.nodup_iff.2 sound.wellFormed.distinct
      room := same.length_eq.trans_le sound.wellFormed.room }
  standing := fun id => (standing_reorder same id).symm ▸ sound.standing id

theorem passAlong_alike (sound : hub.Sound) (unasked : ∀ id, (hub.standing id).Unasked)
    (mapped : hub.Mapped) (now : Instant) (stamp : UInt64) {order : List ConnectionId}
    (same : order.Perm hub.registered)
    (apart : ClosePart.SideBySide (hub.passAlong now stamp order parts).2.evicted parts) :
    (hub.passAlong now stamp order parts).1.Alike (hub.tick now stamp).1 ∧
      (hub.passAlong now stamp order parts).2.pinged = (hub.tick now stamp).2.pinged ∧
      (hub.passAlong now stamp order parts).2.evicted.Perm (hub.tick now stamp).2.evicted := by
  have reordered := sound.reorder same
  have before := standing_reorder same
  have passes := passes_tick sound unasked now stamp
  have passesAlong : Passes { hub with registered := order } now stamp
      (hub.passAlong now stamp order parts).1 (hub.passAlong now stamp order parts).2 :=
    passes_of_parts reordered (fun id => (before id).symm ▸ unasked id) now stamp apart
  have stands (id : ConnectionId) : (hub.passAlong now stamp order parts).1.standing id =
      (hub.tick now stamp).1.standing id := by
    rw [(effect_tick sound.wellFormed now stamp).standing, ← before id]
    exact standing_pass reordered.wellFormed now stamp apart id
  have verdicts := verdict?_reorder same now
  have evicted : (hub.passAlong now stamp order parts).2.evicted.Perm
      (hub.tick now stamp).2.evicted := by
    rw [List.perm_ext_iff_of_nodup passesAlong.once passes.once]
    intro id
    rw [passes.listEvicted, ← verdicts]
    exact passesAlong.listEvicted id
  refine ⟨⟨?_, ?_, ?_, ?_, ?_, ?_⟩, ?_, evicted⟩
  · exact passesAlong.config.trans passes.config.symm
  · exact fun id => congrArg Standing.connection (stands id)
  · refine (passesAlong.registered.trans ?_).trans passes.registered.symm
    simp only [verdicts]
    exact same.filter _
  · refine Mapped.alike ?_ ?_ fun id => congrArg Standing.holding (stands id)
    · have mappedFirst : Mapped { hub with registered := order } := mapped
      exact (mappedFirst.apply reordered.wellFormed (.survey now stamp)).run
        (effect_survey reordered.wellFormed now stamp).wellFormed _
    · exact mapped.apply sound.wellFormed (.tick now stamp)
  · rw [passesAlong.totals, passes.totals, evicted.length_eq]
  · obtain ⟨told, reports, isTold⟩ := passes.told
    obtain ⟨toldAlong, reportsAlong, isToldAlong⟩ := passesAlong.told
    rw [turnReports_reorder same] at isToldAlong
    rw [reports, reportsAlong]
    refine List.Perm.append_right _ (isToldAlong.trans (.trans ?_ isTold.symm))
    exact (evicted.map _).append (same.flatMap_right _)
  · rw [passes.countPinged, passesAlong.countPinged]
    simp only [verdicts]

end Hub

end EventHub
