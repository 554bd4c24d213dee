import EventHub.Proofs.Hub.Effect

/-!
The monitor's pass as an effect on standings: every registered connection that is open gets one
turn, and exactly those whose turn asks for it are evicted.
-/

namespace EventHub.Hub

variable {hub : Hub}

theorem effect_ping (wellFormed : hub.WellFormed) {id : ConnectionId} {connection : Connection}
    (found : hub.get? id = some connection) (stamp : UInt64) :
    Effect hub (hub.ping stamp connection).1
        (Standing.onlyAt id (Standing.amend fun connection => (connection.tryPing stamp).1)) ∧
      (hub.ping stamp connection).2.evicted =
        if (connection.tryPing stamp).2 then [id] else [] := by
  have putEffect := effect_put wellFormed found (fun connection => (connection.tryPing stamp).1)
    fun connection => connection.id_tryPing stamp
  have id_eq := wellFormed.named id connection found
  cases sent : connection.sendControl (.ping stamp) with
  | error cause =>
      have tried : connection.tryPing stamp = (connection.markDead, true) := by
        rw [Connection.tryPing, sent]
      rw [tried] at putEffect ⊢
      rw [ping, sent]
      exact ⟨putEffect, by simp [id_eq]⟩
  | ok pinged =>
      have tried : connection.tryPing stamp = (pinged, false) := by
        rw [Connection.tryPing, sent]
      rw [tried] at putEffect ⊢
      rw [ping, sent]
      exact ⟨putEffect, rfl⟩

theorem effect_visit (wellFormed : hub.WellFormed) {id : ConnectionId} {connection : Connection}
    (found : hub.get? id = some connection) (now : Instant) (stamp : UInt64) :
    Effect hub (hub.visit now stamp connection).1
        (Standing.onlyAt id (Standing.amend fun connection =>
          (connection.attend hub.config.heartbeat now stamp).1)) ∧
      (hub.visit now stamp connection).2.evicted =
        if (connection.attend hub.config.heartbeat now stamp).2 then [id] else [] := by
  have id_eq := wellFormed.named id connection found
  have tickEffect := effect_put wellFormed found
    (fun connection => (connection.heartbeatTick hub.config.heartbeat now).1) fun _ => rfl
  cases ticking : connection.heartbeatTick hub.config.heartbeat now with
  | mk ticked action =>
      rw [ticking] at tickEffect
      let noted := (hub.put ticked).reportMiss connection ticked
      have notedEffect : Effect hub noted _ :=
        tickEffect.bookkeeping (by simp only [noted, reportMiss]; split <;> rfl)
          (by simp only [noted, reportMiss]; split <;> rfl)
          (by simp only [noted, reportMiss]; split <;> rfl)
          (by simp only [noted, reportMiss]; split <;> rfl)
      have sampled (next : Hub) {change : ConnectionId → Standing → Standing}
          (effect : Effect hub next change) :
          Effect hub (next.reportSample connection.id) change := by
        simp only [reportSample]
        split
        · split
          · exact effect.bookkeeping rfl rfl rfl rfl
          · exact effect
        · exact effect
      have standing_connection : (hub.standing id).connection = some connection := found
      simp only [visit, ticking]
      cases action with
      | wait =>
          refine ⟨(sampled noted notedEffect).onlyAt_congr ?_, ?_⟩
          · simp [Standing.amend, standing_connection, Connection.attend, ticking]
          · simp [Connection.attend, ticking]
      | evict =>
          refine ⟨(sampled noted notedEffect).onlyAt_congr ?_, ?_⟩
          · simp [Standing.amend, standing_connection, Connection.attend, ticking]
          · simp [Connection.attend, ticking, id_eq]
      | sendPing =>
          have foundTicked : noted.get? id = some ticked := by
            have standing_eq := notedEffect.standing id
            rw [Standing.onlyAt_self] at standing_eq
            have := congrArg Standing.connection standing_eq
            simpa [standing, Standing.amend, found, ticking] using this
          obtain ⟨pingEffect, evicted⟩ := effect_ping notedEffect.wellFormed foundTicked stamp
          refine ⟨(sampled _ (notedEffect.trans_onlyAt pingEffect)).onlyAt_congr ?_, ?_⟩
          · simp [Standing.amend, standing_connection, Connection.attend, ticking]
          · simpa [Connection.attend, ticking] using evicted

def surveyStep (now : Instant) (stamp : UInt64) (state : Hub × MonitorReport)
    (id : ConnectionId) : Hub × MonitorReport :=
  match state.1.get? id with
  | some connection =>
      if connection.isOpen then
        let (next, turn) := state.1.visit now stamp connection
        (next,
          { pinged := state.2.pinged + turn.pinged
            evicted := state.2.evicted ++ turn.evicted })
      else state
  | none => state

/-- Whether a connection is condemned is settled by its own standing before the pass. -/
theorem effect_surveyStep (state : Hub × MonitorReport) (wellFormed : state.1.WellFormed)
    (now : Instant) (stamp : UInt64) (id : ConnectionId)
    (registered : state.1.isRegistered id = true) :
    Effect state.1 (surveyStep now stamp state id).1
        (Standing.onlyAt id (Standing.visit state.1.config.heartbeat now stamp)) ∧
      (surveyStep now stamp state id).2.evicted = state.2.evicted ++
        if (state.1.standing id).isCondemned state.1.config.heartbeat now stamp then [id]
        else [] := by
  have isRegistered : (state.1.standing id).registered = true := registered
  simp only [surveyStep]
  cases found : state.1.get? id with
  | none =>
      have absent : (state.1.standing id).connection = none := found
      refine ⟨Effect.refl_onlyAt wellFormed ?_, ?_⟩
      · simp [Standing.visit, Standing.isOpen, absent]
      · simp [Standing.isCondemned, absent]
  | some connection =>
      have present : (state.1.standing id).connection = some connection := found
      simp only
      by_cases isOpen : connection.isOpen = true
      · obtain ⟨visitEffect, evicted⟩ := effect_visit wellFormed found now stamp
        rw [if_pos isOpen]
        refine ⟨visitEffect.onlyAt_congr ?_, ?_⟩
        · simp [Standing.visit, Standing.isOpen, present, isOpen, isRegistered]
        · simp [evicted, Standing.isCondemned, present, isOpen, isRegistered]
      · rw [if_neg isOpen]
        refine ⟨Effect.refl_onlyAt wellFormed ?_, ?_⟩
        · simp [Standing.visit, Standing.isOpen, present, isOpen]
        · simp [Standing.isCondemned, present, isOpen]

theorem effect_surveySteps (now : Instant) (stamp : UInt64) {ids : List ConnectionId}
    (distinct : ids.Nodup) (state : Hub × MonitorReport) (wellFormed : state.1.WellFormed)
    (registered : ∀ id ∈ ids, state.1.isRegistered id = true) :
    Effect state.1 (ids.foldl (surveyStep now stamp) state).1
        (fun id standing =>
          if id ∈ ids then standing.visit state.1.config.heartbeat now stamp else standing) ∧
      ∀ id, id ∈ (ids.foldl (surveyStep now stamp) state).2.evicted ↔
        id ∈ state.2.evicted ∨ id ∈ ids ∧
          (state.1.standing id).isCondemned state.1.config.heartbeat now stamp = true := by
  induction ids generalizing state with
  | nil => simpa using Effect.refl wellFormed
  | cons head rest ih =>
      obtain ⟨absent, distinct⟩ := List.nodup_cons.1 distinct
      obtain ⟨turnEffect, evicted⟩ := effect_surveyStep state wellFormed now stamp head
        (registered head List.mem_cons_self)
      have standing_eq {id : ConnectionId} (different : id ≠ head) :
          (surveyStep now stamp state head).1.standing id = state.1.standing id := by
        rw [turnEffect.standing, Standing.onlyAt, if_neg different]
      have ne_head {id : ConnectionId} (member : id ∈ rest) : id ≠ head :=
        fun same => absent (same ▸ member)
      obtain ⟨restEffect, restEvicted⟩ := ih distinct (surveyStep now stamp state head)
        turnEffect.wellFormed (by
          intro id member
          have same := congrArg Standing.registered (standing_eq (ne_head member))
          exact same.trans (registered id (List.mem_cons_of_mem _ member)))
      rw [turnEffect.config] at restEffect restEvicted
      constructor
      · refine (turnEffect.trans restEffect).congr fun id => ?_
        by_cases isHead : id = head
        · subst isHead
          simp [absent]
        · simp [Standing.onlyAt, isHead]
      · intro id
        rw [List.foldl_cons, restEvicted, evicted, List.mem_append]
        by_cases isHead : id = head
        · subst isHead
          simp [absent]
        · rw [standing_eq isHead]
          have notTurn : id ∉ (if (state.1.standing head).isCondemned
              state.1.config.heartbeat now stamp then [head] else []) := by
            split <;> simp [isHead]
          simp [notTurn, isHead]

theorem survey_eq (hub : Hub) (now : Instant) (stamp : UInt64) :
    hub.survey now stamp = hub.registered.foldl (surveyStep now stamp) (hub, {}) := rfl

theorem effect_survey (wellFormed : hub.WellFormed) (now : Instant) (stamp : UInt64) :
    Effect hub (hub.survey now stamp).1 fun _ standing =>
      standing.visit hub.config.heartbeat now stamp := by
  rw [survey_eq]
  obtain ⟨effect, -⟩ := effect_surveySteps now stamp wellFormed.distinct (hub, {}) wellFormed
    fun id => isRegistered_iff.2
  refine effect.congr fun id => ?_
  split
  · rfl
  · rename_i absent
    have unregistered : (hub.standing id).registered = false :=
      Bool.eq_false_iff.2 (mt isRegistered_iff.1 absent)
    simp [Standing.visit, unregistered]

theorem mem_evicted_survey (wellFormed : hub.WellFormed) (now : Instant) (stamp : UInt64)
    (id : ConnectionId) :
    id ∈ (hub.survey now stamp).2.evicted ↔
      (hub.standing id).isCondemned hub.config.heartbeat now stamp = true := by
  rw [survey_eq]
  obtain ⟨-, evicted⟩ := effect_surveySteps now stamp wellFormed.distinct (hub, {}) wellFormed
    fun id => isRegistered_iff.2
  rw [evicted]
  constructor
  · rintro (none | ⟨-, condemned⟩)
    · simp at none
    · exact condemned
  · intro condemned
    have registered : (hub.standing id).registered = true := by
      simp only [Standing.isCondemned, Bool.and_eq_true] at condemned
      exact condemned.1
    exact Or.inr ⟨isRegistered_iff.1 registered, condemned⟩

theorem effect_tick (wellFormed : hub.WellFormed) (now : Instant) (stamp : UInt64) :
    Effect hub (hub.tick now stamp).1 fun _ standing =>
      standing.tick hub.config.heartbeat now stamp := by
  have surveyed := effect_survey wellFormed now stamp
  have closed := effect_closeAll surveyed.wellFormed .heartbeatTimeout
    (hub.survey now stamp).2.evicted
  refine (surveyed.trans closed).congr fun id => ?_
  simp only [mem_evicted_survey wellFormed, Standing.tick]

end EventHub.Hub
