import EventHub.Proofs.Hub.Dwindling

/-!
What holds of every standing, whatever the hub has been asked to do: the registry, the index and
the lifecycle of one connection stay in step, its subscriptions stay within the cap and every
filter it has stored was granted by its own identity.
-/

namespace EventHub

/-- Every stored filter is what the scope made of some request. -/
def Holding.Within (scope : ClusterScope) (holding : Holding) : Prop :=
  ∀ eventType filter, holding.filter eventType = some filter →
    ∃ requested, scope.narrow requested = .ok filter.clusters

namespace Standing

structure Sound (limit : Nat) (standing : Standing) : Prop where
  known : standing.registered = true → standing.connection.isSome = true
  registered_of_isOpen : standing.isOpen = true → standing.registered = true
  holding_eq_none : standing.registered = false → standing.holding = .none
  consistent : standing.holding.Consistent
  bounded : standing.holding.held.size ≤ limit
  within : ∀ connection, standing.connection = some connection →
    standing.holding.Within connection.identity.clusters

variable {limit : Nat} {standing : Standing}

theorem sound_none (limit : Nat) : none.Sound limit where
  known := by simp [none]
  registered_of_isOpen := by simp [none, isOpen]
  holding_eq_none := fun _ => rfl
  consistent := Holding.consistent_none
  bounded := Nat.zero_le _
  within := by simp [none]

theorem Sound.amend (sound : standing.Sound limit) {change : Connection → Connection}
    (identity : ∀ connection, (change connection).identity = connection.identity)
    (wasOpen : ∀ connection, (change connection).isOpen = true → connection.isOpen = true) :
    (standing.amend change).Sound limit where
  known := by
    intro registered
    simpa [Standing.amend] using sound.known registered
  registered_of_isOpen := by
    intro opened
    apply sound.registered_of_isOpen
    simp only [Standing.isOpen, Standing.amend, Option.any_map, Option.any_eq_true] at opened ⊢
    obtain ⟨connection, found, opened⟩ := opened
    exact ⟨connection, found, wasOpen connection opened⟩
  holding_eq_none := sound.holding_eq_none
  consistent := sound.consistent
  bounded := sound.bounded
  within := by
    intro connection found
    obtain ⟨before, foundBefore, rfl⟩ := Option.map_eq_some_iff.1 found
    rw [identity]
    exact sound.within before foundBefore

theorem Sound.amend_dwindles (sound : standing.Sound limit) {change : Connection → Connection}
    (dwindles : ∀ connection, Connection.Dwindles connection (change connection)) :
    (standing.amend change).Sound limit :=
  sound.amend (fun connection => (dwindles connection).identity)
    fun connection => (dwindles connection).wasOpen

theorem Sound.enroll (sound : standing.Sound limit) (fresh : standing.connection = .none)
    (connection : Connection) : (standing.enroll connection).Sound limit where
  known := fun _ => rfl
  registered_of_isOpen := fun _ => rfl
  holding_eq_none := by
    intro unregistered
    cases unregistered
  consistent := sound.consistent
  bounded := sound.bounded
  within := by
    intro _ _ eventType filter stored
    have unregistered : standing.registered = false := by
      cases registered : standing.registered with
      | true =>
          have known := sound.known registered
          simp [fresh] at known
      | false => rfl
    rw [Standing.enroll, sound.holding_eq_none unregistered] at stored
    cases stored

theorem narrow_of_grant {clusters : List String} {granted : NameSet}
    (grants : standing.grant clusters = some granted) :
    ∃ connection, standing.connection = some connection ∧ connection.isOpen = true ∧
      connection.identity.clusters.narrow (NameSet.ofList clusters) = .ok granted := by
  simp only [grant] at grants
  split at grants
  · rename_i connection found
    split at grants
    · rename_i opened
      refine ⟨connection, found, opened, ?_⟩
      cases narrowed : connection.identity.clusters.narrow (NameSet.ofList clusters) with
      | error cluster => simp [narrowed, Except.toOption] at grants
      | ok result =>
          rw [narrowed] at grants
          rw [Option.some.inj grants]
    · cases grants
  · cases grants

theorem Sound.subscribe (sound : standing.Sound limit) (events : List EventType)
    (clusters : List String) : (standing.subscribe limit events clusters).Sound limit := by
  simp only [Standing.subscribe]
  cases grants : standing.grant clusters with
  | none => exact sound
  | some granted =>
      simp only
      split
      · rename_i fits
        obtain ⟨connection, found, -, narrowed⟩ := narrow_of_grant grants
        refine ⟨sound.known, sound.registered_of_isOpen, ?_, sound.consistent.insertAll _ _,
          ?_, ?_⟩
        · intro unregistered
          have registered := sound.registered_of_isOpen (isOpen_of_grant grants)
          cases registered.symm.trans unregistered
        · exact Nat.le_trans (Holding.size_held_insertAll_le _ _ _)
            (by simpa [Holding.fits] using fits)
        · intro other foundOther eventType filter stored
          rcases Holding.filter_insertAll stored with rfl | stored
          · rw [Option.some.inj (foundOther.symm.trans found)]
            exact ⟨_, narrowed⟩
          · exact sound.within other foundOther eventType filter stored
      · exact sound

theorem Sound.unsubscribe (sound : standing.Sound limit) (events : List EventType) :
    (standing.unsubscribe events).Sound limit where
  known := sound.known
  registered_of_isOpen := sound.registered_of_isOpen
  holding_eq_none := by
    intro unregistered
    rw [Standing.unsubscribe, sound.holding_eq_none unregistered]
    exact Holding.eraseAll_none events
  consistent := sound.consistent.eraseAll events
  bounded := Nat.le_trans (Holding.size_held_eraseAll_le _ _) sound.bounded
  within := by
    intro connection found eventType filter stored
    exact sound.within connection found eventType filter (Holding.filter_eraseAll stored)

theorem Sound.offer (sound : standing.Sound limit) (event : Event) :
    (standing.offer event).Sound limit := by
  rw [Standing.offer]
  split
  · exact sound.amend (Connection.identity_take _) fun connection opened =>
      (connection.isOpen_take _).symm.trans opened
  · exact sound

theorem Sound.leave (sound : standing.Sound limit) (reason : CloseReason) :
    (standing.leave reason).Sound limit := by
  rw [Standing.leave]
  split
  · rw [sound.consistent.clear_eq_none]
    refine ⟨?_, ?_, fun _ => rfl, Holding.consistent_none, Nat.zero_le _, ?_⟩
    · intro registered
      cases registered
    · intro opened
      simp only [Standing.isOpen, Standing.beginDraining, Standing.amend, Option.any_map,
        Option.any_eq_true] at opened
      obtain ⟨connection, -, opened⟩ := opened
      rw [connection.isOpen_beginDraining] at opened
      cases opened
    · intro connection _ eventType filter stored
      cases stored
  · exact sound

theorem Sound.close (sound : standing.Sound limit) (reason : CloseReason) :
    (standing.close reason).Sound limit := by
  rw [Standing.close]
  split
  · exact (sound.leave reason).amend_dwindles Connection.dwindles_markClosed
  · exact sound

theorem Sound.visit (sound : standing.Sound limit) (config : HeartbeatConfig) (now : Instant)
    (stamp : UInt64) : (standing.visit config now stamp).Sound limit := by
  rw [Standing.visit]
  split
  · exact sound.amend_dwindles fun connection => connection.dwindles_attend config now stamp
  · exact sound

theorem Sound.tick (sound : standing.Sound limit) (config : HeartbeatConfig) (now : Instant)
    (stamp : UInt64) : (standing.tick config now stamp).Sound limit := by
  rw [Standing.tick]
  split
  · exact (sound.visit config now stamp).close .heartbeatTimeout
  · exact sound.visit config now stamp

end Standing

namespace Hub

variable {hub : Hub} {limit : Nat}

theorem get?_eq_none_of_concerns {id other : ConnectionId} {identity : Identity}
    {version : UInt32} (concerned : hub.concerns id (.register other identity version) = true) :
    hub.get? id = none := by
  simp only [concerns, Bool.and_eq_true, decide_eq_true_eq] at concerned
  obtain ⟨⟨rfl, fresh⟩, -⟩ := concerned
  simpa using fresh

theorem sound_apply {id : ConnectionId} {operation : Operation}
    (concerned : hub.concerns id operation = true)
    (sound : (hub.standing id).Sound hub.config.maxSubscriptions) :
    ((hub.standing id).apply hub.config id operation).Sound hub.config.maxSubscriptions := by
  cases operation with
  | register other identity version =>
      exact sound.enroll (get?_eq_none_of_concerns concerned) _
  | subscribe other events clusters => exact sound.subscribe events clusters
  | unsubscribe other events => exact sound.unsubscribe events
  | route event => exact sound.offer event
  | dequeue other => exact sound.amend_dwindles Connection.dwindles_dequeue
  | clear other => exact sound.amend_dwindles Connection.dwindles_clear
  | tend other upkeep => exact sound.amend_dwindles (Connection.dwindles_upkeep upkeep)
  | beginDraining other reason =>
      exact sound.amend_dwindles fun connection => connection.dwindles_beginDraining reason
  | markClosed other => exact sound.amend_dwindles Connection.dwindles_markClosed
  | beginClose other reason => exact sound.leave reason
  | finishClose other asked => exact sound.amend_dwindles Connection.dwindles_markClosed
  | close other reason => exact sound.close reason
  | survey now stamp => exact sound.visit _ now stamp
  | tick now stamp => exact sound.tick _ now stamp
  | shutdown => exact sound.close .serverShutdown
  | report entry => exact sound

/-- A well formed hub whose standings are all sound. -/
structure Sound (hub : Hub) : Prop where
  wellFormed : hub.WellFormed
  standing : ∀ id, (hub.standing id).Sound hub.config.maxSubscriptions

theorem sound_ofConfig (config : HubConfig) : (ofConfig config).Sound :=
  ⟨wellFormed_ofConfig config, fun _ => Standing.sound_none _⟩

theorem Sound.apply (sound : hub.Sound) (operation : Operation) :
    (hub.apply operation).Sound := by
  have effect := effect_apply sound.wellFormed operation
  refine ⟨effect.wellFormed, fun id => ?_⟩
  rw [effect.config, effect.standing]
  split
  · rename_i concerned
    exact sound_apply concerned (sound.standing id)
  · exact sound.standing id

theorem Sound.run (sound : hub.Sound) (operations : List Operation) :
    (hub.run operations).Sound := by
  induction operations generalizing hub with
  | nil => exact sound
  | cons operation rest ih => exact ih (sound.apply operation)

end Hub

end EventHub
