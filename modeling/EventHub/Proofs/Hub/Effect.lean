import EventHub.Proofs.Hub.Standing

/-!
The effect of the hub's own functions on every standing. Each function has one lemma here, and no
later proof opens the function again.
-/

namespace EventHub.Hub

def standing (hub : Hub) (id : ConnectionId) : Standing where
  connection := hub.get? id
  registered := hub.isRegistered id
  holding := hub.index.holding id

structure WellFormed (hub : Hub) : Prop where
  named : ∀ id connection, hub.get? id = some connection → connection.id = id
  known : ∀ id, hub.isRegistered id = true → (hub.get? id).isSome = true
  distinct : hub.registered.Nodup
  room : hub.count ≤ hub.config.maxConnections

/-- From `hub` to `next` each standing changes by itself, in the way `change` says. -/
structure Effect (hub next : Hub) (change : ConnectionId → Standing → Standing) : Prop where
  wellFormed : next.WellFormed
  config : next.config = hub.config
  standing : ∀ id, next.standing id = change id (hub.standing id)

theorem isRegistered_iff {hub : Hub} {id : ConnectionId} :
    hub.isRegistered id = true ↔ id ∈ hub.registered := by
  simp [isRegistered]

theorem find?_eq_some_iff {hub : Hub} {id : ConnectionId} {connection : Connection} :
    hub.find? id = some connection ↔
      hub.isRegistered id = true ∧ hub.get? id = some connection := by
  rw [find?]
  cases hub.isRegistered id with
  | true => simp
  | false => simp

theorem wellFormed_ofConfig (config : HubConfig) : (ofConfig config).WellFormed where
  named := by simp [ofConfig, get?, EmptyCollection.emptyCollection]
  known := by simp [ofConfig, isRegistered]
  distinct := List.nodup_nil
  room := Nat.zero_le _

namespace Effect

variable {hub middle next : Hub} {first second change : ConnectionId → Standing → Standing}

theorem refl (wellFormed : hub.WellFormed) : Effect hub hub fun _ standing => standing :=
  ⟨wellFormed, rfl, fun _ => rfl⟩

theorem trans (earlier : Effect hub middle first) (later : Effect middle next second) :
    Effect hub next fun id standing => second id (first id standing) :=
  ⟨later.wellFormed, later.config.trans earlier.config, fun id => by
    rw [later.standing, earlier.standing]⟩

theorem congr (effect : Effect hub next first)
    (agree : ∀ id, first id (hub.standing id) = second id (hub.standing id)) :
    Effect hub next second :=
  ⟨effect.wellFormed, effect.config, fun id => (effect.standing id).trans (agree id)⟩

theorem to_onlyAt {id : ConnectionId} {turn : Standing → Standing}
    (effect : Effect hub next change)
    (own : change id (hub.standing id) = turn (hub.standing id))
    (others : ∀ other, other ≠ id → change other (hub.standing other) = hub.standing other) :
    Effect hub next (Standing.onlyAt id turn) := by
  refine effect.congr fun other => ?_
  by_cases isId : other = id
  · subst isId
    rw [Standing.onlyAt_self, own]
  · rw [Standing.onlyAt, if_neg isId, others other isId]

theorem refl_onlyAt (wellFormed : hub.WellFormed) {id : ConnectionId}
    {turn : Standing → Standing} (same : turn (hub.standing id) = hub.standing id) :
    Effect hub hub (Standing.onlyAt id turn) := by
  exact (refl wellFormed).to_onlyAt same.symm fun _ _ => rfl

theorem onlyAt_congr {id : ConnectionId} {turn other : Standing → Standing}
    (effect : Effect hub next (Standing.onlyAt id turn))
    (agree : turn (hub.standing id) = other (hub.standing id)) :
    Effect hub next (Standing.onlyAt id other) := by
  refine effect.to_onlyAt ?_ fun candidate different => if_neg different
  rw [Standing.onlyAt_self, agree]

theorem trans_onlyAt {id : ConnectionId} {turn after : Standing → Standing}
    (earlier : Effect hub middle (Standing.onlyAt id turn))
    (later : Effect middle next (Standing.onlyAt id after)) :
    Effect hub next (Standing.onlyAt id fun standing => after (turn standing)) := by
  refine (earlier.trans later).congr fun candidate => ?_
  simp only [Standing.onlyAt]
  split <;> rfl

/-- Totals and reports are no part of a standing. -/
theorem of_bookkeeping (wellFormed : hub.WellFormed)
    (connections : next.connections = hub.connections)
    (registered : next.registered = hub.registered)
    (index : next.index = hub.index) (config : next.config = hub.config) :
    Effect hub next fun _ standing => standing := by
  obtain ⟨named, known, distinct, room⟩ := wellFormed
  have get?_eq (id : ConnectionId) : next.get? id = hub.get? id := by rw [get?, connections]; rfl
  have isRegistered_eq (id : ConnectionId) : next.isRegistered id = hub.isRegistered id := by
    rw [isRegistered, registered]
    rfl
  refine ⟨⟨?_, ?_, ?_, ?_⟩, config, ?_⟩
  · intro id connection found
    exact named id connection (get?_eq id ▸ found)
  · intro id isRegistered
    rw [get?_eq]
    exact known id (isRegistered_eq id ▸ isRegistered)
  · rw [registered]
    exact distinct
  · rw [count, registered, config]
    exact room
  · intro id
    rw [Hub.standing, get?_eq, isRegistered_eq, index]
    rfl

theorem bookkeeping (effect : Effect hub middle change)
    (connections : next.connections = middle.connections)
    (registered : next.registered = middle.registered) (index : next.index = middle.index)
    (config : next.config = middle.config) : Effect hub next change :=
  effect.trans (of_bookkeeping effect.wellFormed connections registered index config)

/-- A walk over ids without repetition, each step of which changes one standing. -/
theorem of_foldl {σ : Type} (view : σ → Hub) (step : σ → ConnectionId → σ)
    (turn : ConnectionId → Standing → Standing) (config : HubConfig)
    (one : ∀ state id, (view state).WellFormed → (view state).config = config →
      Effect (view state) (view (step state id)) (Standing.onlyAt id (turn id)))
    {ids : List ConnectionId} (distinct : ids.Nodup) (state : σ)
    (wellFormed : (view state).WellFormed) (same : (view state).config = config) :
    Effect (view state) (view (ids.foldl step state))
      fun id standing => if id ∈ ids then turn id standing else standing := by
  induction ids generalizing state with
  | nil => simpa using refl wellFormed
  | cons head rest ih =>
      obtain ⟨absent, distinct⟩ := List.nodup_cons.1 distinct
      have turnEffect := one state head wellFormed same
      have restEffect := ih distinct (step state head) turnEffect.wellFormed
        (turnEffect.config.trans same)
      refine (turnEffect.trans restEffect).congr fun id => ?_
      by_cases isHead : id = head
      · subst isHead
        simp [absent]
      · simp [Standing.onlyAt, isHead]

/-- Repetitions do no harm when a second turn changes nothing more. -/
theorem of_foldl_idempotent (step : Hub → ConnectionId → Hub)
    (turn : Standing → Standing) (again : ∀ standing, turn (turn standing) = turn standing)
    (one : ∀ hub id, hub.WellFormed → Effect hub (step hub id) (Standing.onlyAt id turn))
    (ids : List ConnectionId) (wellFormed : hub.WellFormed) :
    Effect hub (ids.foldl step hub)
      fun id standing => if id ∈ ids then turn standing else standing := by
  induction ids generalizing hub with
  | nil => simpa using refl wellFormed
  | cons head rest ih =>
      have turnEffect := one hub head wellFormed
      refine (turnEffect.trans (ih turnEffect.wellFormed)).congr fun id => ?_
      by_cases isHead : id = head
      · subst isHead
        simp [again]
      · simp [Standing.onlyAt, isHead]

end Effect

theorem modify_modify (hub : Hub) (id : ConnectionId) (change later : Connection → Connection) :
    (hub.modify id change).modify id later = hub.modify id (later ∘ change) := by
  simp only [modify, Table.update_update]

theorem detach?_eq_some_iff {hub next : Hub} {id : ConnectionId} :
    hub.detach? id = some next ↔ hub.isRegistered id = true ∧
      next = { hub with registered := hub.registered.filter fun other => other ≠ id } := by
  rw [detach?]
  cases hub.isRegistered id with
  | true => simp [eq_comm]
  | false => simp

theorem isRegistered_of_detach? {hub next : Hub} {id : ConnectionId}
    (detaches : hub.detach? id = some next) (other : ConnectionId) :
    next.isRegistered other = (hub.isRegistered other && decide (other ≠ id)) := by
  obtain ⟨-, rfl⟩ := detach?_eq_some_iff.1 detaches
  rw [Bool.eq_iff_iff, Bool.and_eq_true, isRegistered_iff, isRegistered_iff, List.mem_filter]

theorem admitSubscribe_eq_ok_iff {hub : Hub} {id : ConnectionId} {clusters : List String}
    {granted : NameSet} :
    hub.admitSubscribe id clusters = .ok granted ↔
      (hub.standing id).grant clusters = some granted := by
  simp only [admitSubscribe, standing, Standing.grant]
  cases found : hub.get? id with
  | none => simp
  | some connection =>
      simp only
      split
      · cases connection.identity.clusters.narrow (NameSet.ofList clusters) with
        | error cluster => simp [Except.toOption]
        | ok narrowed => simp [Except.toOption]
      · simp

/-- A subscribe is refused, or it adds to the index and is counted: the second check finds open what
the first one did. -/
theorem subscribe_cases (hub : Hub) (id : ConnectionId) (events : List EventType)
    (clusters : List String) :
    (hub.subscribe id events clusters).1 = hub ∨
      ∃ filter index added,
        hub.index.subscribeMany hub.config.maxSubscriptions id events filter = .ok (index, added) ∧
          (hub.subscribe id events clusters).1 =
            { hub with
              index
              totals := { hub.totals with
                subscriptions := hub.totals.subscriptions + added } } := by
  simp only [subscribe]
  cases admitted : hub.admitSubscribe id clusters with
  | error cause => exact Or.inl rfl
  | ok granted =>
      simp only [storeSubscriptions]
      cases accepted : hub.index.subscribeMany hub.config.maxSubscriptions id events ⟨granted⟩ with
      | error cause => exact Or.inl rfl
      | ok outcome =>
          obtain ⟨index, added⟩ := outcome
          have stillOpen : Hub.isOpen { hub with index } id = true :=
            Standing.isOpen_of_grant (admitSubscribe_eq_ok_iff.1 admitted)
          refine Or.inr ⟨⟨granted⟩, index, added, accepted, ?_⟩
          simp only [Except.map, confirmSubscribe, stillOpen, if_true]
          rfl

section Functions

variable {hub : Hub} (wellFormed : hub.WellFormed)
include wellFormed

theorem effect_modify (id : ConnectionId) (change : Connection → Connection)
    (keepsId : ∀ connection, (change connection).id = connection.id) :
    Effect hub (hub.modify id change) (Standing.onlyAt id (Standing.amend change)) := by
  have get?_eq (other : ConnectionId) : (hub.modify id change).get? other =
      if other = id then (hub.get? other).map change else hub.get? other :=
    Table.get?_update hub.connections id change other
  refine ⟨⟨?_, ?_, wellFormed.distinct, wellFormed.room⟩, rfl, ?_⟩
  · intro other connection found
    rw [get?_eq] at found
    split at found
    · obtain ⟨before, foundBefore, rfl⟩ := Option.map_eq_some_iff.1 found
      rw [keepsId]
      exact wellFormed.named other before foundBefore
    · exact wellFormed.named other connection found
  · intro other registered
    have known := wellFormed.known other registered
    rw [get?_eq]
    split
    · simpa using known
    · exact known
  · intro other
    simp only [standing, get?_eq, Standing.onlyAt]
    split <;> rfl

theorem put_eq_modify {id : ConnectionId} {connection : Connection}
    (found : hub.get? id = some connection) (change : Connection → Connection)
    (keepsId : (change connection).id = connection.id) :
    hub.put (change connection) = hub.modify id change := by
  rw [put, keepsId, wellFormed.named id connection found, modify, modify]
  congr 1
  refine Table.update_congr hub.connections ?_
  intro stored lookup
  rw [Option.some.inj (found.symm.trans lookup)]

/-- Only the stored connection matters, so the change may be taken to keep every id. -/
theorem put_eq_modify_of_id {id : ConnectionId} {connection changed : Connection}
    (found : hub.get? id = some connection) (sameId : changed.id = connection.id) :
    hub.put changed = hub.modify id fun stored => { changed with id := stored.id } := by
  rw [put_eq_modify wellFormed found (fun _ => changed) sameId, modify, modify]
  congr 1
  refine Table.update_congr hub.connections ?_
  intro stored lookup
  rw [Option.some.inj (found.symm.trans lookup)] at sameId
  rw [← sameId]

theorem effect_put {id : ConnectionId} {connection : Connection}
    (found : hub.get? id = some connection) (change : Connection → Connection)
    (keepsId : ∀ connection, (change connection).id = connection.id) :
    Effect hub (hub.put (change connection)) (Standing.onlyAt id (Standing.amend change)) := by
  rw [put_eq_modify wellFormed found change (keepsId connection)]
  exact effect_modify wellFormed id change keepsId

theorem effect_report (entry : Report) :
    Effect hub (hub.report entry) fun _ standing => standing :=
  .of_bookkeeping wellFormed rfl rfl rfl rfl

theorem effect_reportCrossing (id : ConnectionId) (crossing : Option Crossing) :
    Effect hub (hub.reportCrossing id crossing) fun _ standing => standing := by
  cases crossing with
  | none => exact .refl wellFormed
  | some crossing => exact effect_report wellFormed _

theorem effect_register {id : ConnectionId} (fresh : hub.get? id = none) {identity : Identity}
    {version : UInt32} {next : Hub} (accepted : hub.register id identity version = .ok next) :
    Effect hub next
      (Standing.onlyAt id (Standing.enroll (.create hub.config id identity version))) := by
  simp only [register] at accepted
  split at accepted
  · cases accepted
  · rename_i room
    cases accepted
    have get?_eq (other : ConnectionId) :
        (hub.connections.insert id (.create hub.config id identity version)).get? other =
          if other = id then some (.create hub.config id identity version)
          else hub.get? other :=
      Table.get?_insert hub.connections id _ other
    have unregistered : id ∉ hub.registered := by
      intro member
      have known := wellFormed.known id (isRegistered_iff.2 member)
      simp [fresh] at known
    refine ⟨⟨?_, ?_, ?_, ?_⟩, rfl, ?_⟩
    · intro other connection found
      rw [report, get?, get?_eq] at found
      split at found
      · rename_i same
        cases found
        exact same.symm
      · exact wellFormed.named other connection found
    · intro other registered
      rw [report, get?, get?_eq]
      split
      · rfl
      · rename_i different
        apply wellFormed.known
        rw [isRegistered_iff] at registered ⊢
        simpa [report, different] using registered
    · simp only [report]
      rw [List.nodup_append]
      refine ⟨wellFormed.distinct, by simp, ?_⟩
      intro left member right isId same
      rw [List.mem_singleton.1 isId] at same
      exact unregistered (same ▸ member)
    · simp only [report, count, List.length_append, List.length_singleton]
      simp only [count] at room
      omega
    · intro other
      simp only [standing, report, get?, get?_eq, Standing.onlyAt, isRegistered]
      by_cases same : other = id
      · subst same
        simp [Standing.enroll]
      · simp [same]

/-! Routing. -/

theorem effect_deliver (payload : Payload) (report : RouteReport) (id : ConnectionId) :
    Effect hub (deliver payload (hub, report) id).1
      (Standing.onlyAt id fun standing =>
        if standing.registered then standing.amend (Connection.take payload) else standing) := by
  simp only [deliver]
  cases offered : (hub.find? id).bind fun connection => connection.enqueue? payload with
  | none =>
      apply Effect.refl_onlyAt wellFormed
      split
      · rename_i registered
        cases found : hub.get? id with
        | none => simp [standing, Standing.amend, found]
        | some connection =>
            have isRegistered : hub.isRegistered id = true := registered
            have closing : connection.isOpen = false := by
              simpa [find?, isRegistered, found, Connection.enqueue?] using offered
            simp [standing, Standing.amend, found, Connection.take, closing]
      · rfl
  | some outcome =>
      obtain ⟨taken, enqueued⟩ := outcome
      obtain ⟨connection, finds, accepted⟩ := Option.bind_eq_some_iff.1 offered
      obtain ⟨registered, found⟩ := find?_eq_some_iff.1 finds
      obtain ⟨-, rfl⟩ := Connection.enqueue?_eq_some accepted
      have putEffect := effect_put wellFormed found (Connection.take payload)
        fun connection => connection.id_take payload
      apply Effect.onlyAt_congr
        (putEffect.trans (effect_reportCrossing putEffect.wellFormed id enqueued.crossing))
      exact (if_pos registered).symm

theorem effect_route (event : Event) :
    Effect hub (hub.route event).1 fun _ standing => standing.offer event := by
  let targets := hub.index.matching event.eventType event.cluster
  have walk := Effect.of_foldl Prod.fst (deliver event.toPayload)
    (fun _ standing =>
      if standing.registered then standing.amend (Connection.take event.toPayload) else standing)
    hub.config
    (fun state id wellFormed _ => effect_deliver wellFormed event.toPayload state.2 id)
    (hub.index.nodup_matching event.eventType event.cluster)
    (hub, ({ matched := targets.length } : RouteReport)) wellFormed rfl
  have counted : Effect hub (hub.route event).1 _ := walk.bookkeeping rfl rfl rfl rfl
  refine counted.congr fun id => ?_
  have wanted_iff : id ∈ hub.index.matching event.eventType event.cluster ↔
      (hub.standing id).holding.wants event = true := SubscriptionIndex.mem_matching
  rw [Standing.offer]
  cases wanted : (hub.standing id).holding.wants event with
  | true => rw [if_pos (wanted_iff.2 wanted), Bool.and_true]
  | false => rw [if_neg (by simp [wanted_iff, wanted]), Bool.and_false, if_neg Bool.false_ne_true]

/-! Subscribing. -/

theorem effect_index {index : SubscriptionIndex} {id : ConnectionId} {change : Holding → Holding}
    (changed : ∀ other, index.holding other =
      if other = id then change (hub.index.holding id) else hub.index.holding other) :
    Effect hub { hub with index }
      (Standing.onlyAt id fun standing =>
        { standing with holding := change standing.holding }) := by
  refine ⟨⟨wellFormed.named, wellFormed.known, wellFormed.distinct, wellFormed.room⟩, rfl, ?_⟩
  intro other
  simp only [standing, Standing.onlyAt, changed]
  by_cases same : other = id
  · subst same
    simp only [if_true]
    rfl
  · simp only [same, if_false]
    rfl

theorem effect_dropSubscriptions (id : ConnectionId) :
    Effect hub (hub.dropSubscriptions id)
      (Standing.onlyAt id fun standing => { standing with holding := standing.holding.clear }) :=
  effect_index wellFormed fun other => hub.index.holding_unsubscribeAll id other

theorem effect_unsubscribe (id : ConnectionId) (events : List EventType) :
    Effect hub (hub.unsubscribe id events).1
      (Standing.onlyAt id (Standing.unsubscribe events)) :=
  effect_index wellFormed fun other => SubscriptionIndex.holding_unsubscribeMany id events _ other

theorem effect_subscribe (id : ConnectionId) (events : List EventType)
    (clusters : List String) :
    Effect hub (hub.subscribe id events clusters).1
      (Standing.onlyAt id
        (Standing.subscribe hub.config.maxSubscriptions events clusters)) := by
  simp only [subscribe]
  cases admitted : hub.admitSubscribe id clusters with
  | error cause =>
      apply Effect.refl_onlyAt wellFormed
      cases grants : (hub.standing id).grant clusters with
      | none => simp [Standing.subscribe, grants]
      | some granted =>
          rw [admitSubscribe_eq_ok_iff.2 grants] at admitted
          cases admitted
  | ok granted =>
      have grants := admitSubscribe_eq_ok_iff.1 admitted
      simp only [storeSubscriptions, SubscriptionIndex.subscribeMany_eq]
      by_cases fits : (hub.index.holding id).fits hub.config.maxSubscriptions events = true
      · rw [if_pos fits]
        let stored : Hub := { hub with
          index := events.foldl (fun index eventType => index.insert id ⟨granted⟩ eventType)
            hub.index }
        have storedEffect : Effect hub stored _ := effect_index wellFormed
          fun other => SubscriptionIndex.holding_insertAll id ⟨granted⟩ events hub.index other
        -- The index is no part of the connection, so the second check finds it open as well.
        have stillOpen : stored.isOpen id = true := Standing.isOpen_of_grant grants
        have confirmed : (stored.confirmSubscribe id events granted
            ((hub.index.holding id).newTypes events).size).1 =
              stored.countSubscriptions ((hub.index.holding id).newTypes events).size := by
          rw [confirmSubscribe, if_pos stillOpen]
        simp only [Except.map]
        rw [confirmed]
        have counted : Effect hub
            (stored.countSubscriptions ((hub.index.holding id).newTypes events).size) _ :=
          storedEffect.bookkeeping rfl rfl rfl rfl
        apply counted.onlyAt_congr
        rw [Standing.subscribe, grants]
        exact (if_pos fits).symm
      · rw [if_neg fits]
        apply Effect.refl_onlyAt wellFormed
        rw [Standing.subscribe, grants]
        exact if_neg fits

/-! Closing. -/

theorem effect_beginDraining (id : ConnectionId) (reason : CloseReason) :
    Effect hub (hub.beginDraining id reason).1
      (Standing.onlyAt id (Standing.beginDraining reason)) := by
  simp only [beginDraining]
  cases found : hub.get? id with
  | none =>
      apply Effect.refl_onlyAt wellFormed
      simp [standing, Standing.beginDraining, Standing.amend, found]
  | some connection =>
      exact effect_put wellFormed found
        (fun connection => (connection.beginDraining reason).1)
        fun connection => connection.id_beginDraining reason

theorem effect_detach {id : ConnectionId} (registered : hub.isRegistered id = true) :
    ∃ detached, hub.detach? id = some detached ∧
      Effect hub detached
        (Standing.onlyAt id fun standing => { standing with registered := false }) := by
  refine ⟨_, if_pos registered, ⟨wellFormed.named, ?_, ?_, ?_⟩, rfl, ?_⟩
  · intro other isRegistered
    apply wellFormed.known
    rw [isRegistered_iff] at isRegistered ⊢
    exact (List.mem_filter.1 isRegistered).1
  · exact wellFormed.distinct.sublist List.filter_sublist
  · exact Nat.le_trans (List.length_filter_le _ _) wellFormed.room
  · intro other
    by_cases same : other = id
    · subst same
      simp [standing, isRegistered, get?, Standing.onlyAt]
    · simp [standing, isRegistered, get?, Standing.onlyAt, same]

theorem effect_beginClose (id : ConnectionId) (reason : CloseReason) :
    Effect hub ((hub.beginClose? id reason).getD hub)
      (Standing.onlyAt id (Standing.leave reason)) := by
  simp only [beginClose?]
  by_cases registered : hub.isRegistered id = true
  · obtain ⟨detached, detaches, detachEffect⟩ := effect_detach wellFormed registered
    rw [detaches, Option.map_some, Option.getD_some]
    have drainEffect := effect_beginDraining detachEffect.wellFormed id reason
    have dropEffect := effect_dropSubscriptions drainEffect.wellFormed id
    apply (detachEffect.trans_onlyAt (drainEffect.trans_onlyAt dropEffect)).onlyAt_congr
    rw [Standing.leave, if_pos (show (hub.standing id).registered = true from registered)]
    rfl
  · rw [detach?, if_neg registered]
    apply Effect.refl_onlyAt wellFormed
    exact if_neg registered

theorem effect_finishClose (id : ConnectionId) (asked : CloseReason) :
    Effect hub (hub.finishClose id asked)
      (Standing.onlyAt id (Standing.amend Connection.markClosed)) := by
  apply (effect_modify wellFormed id Connection.markClosed fun _ => rfl).bookkeeping
  all_goals
    simp only [finishClose, countEviction, report]
    split <;> rfl

theorem effect_close (id : ConnectionId) (reason : CloseReason) :
    Effect hub (hub.close id reason).1 (Standing.onlyAt id (Standing.close reason)) := by
  have begun := effect_beginClose wellFormed id reason
  simp only [close]
  by_cases registered : hub.isRegistered id = true
  · obtain ⟨detached, detaches, -⟩ := effect_detach wellFormed registered
    rw [beginClose?, detaches, Option.map_some] at begun ⊢
    apply (begun.trans_onlyAt (effect_finishClose begun.wellFormed id reason)).onlyAt_congr
    exact (if_pos registered).symm
  · have nothing : hub.beginClose? id reason = none := by
      rw [beginClose?, detach?, if_neg registered]
      rfl
    rw [nothing]
    apply Effect.refl_onlyAt wellFormed
    exact if_neg registered

theorem effect_closeAll (reason : CloseReason) (ids : List ConnectionId) :
    Effect hub (hub.closeAll reason ids)
      fun id standing => if id ∈ ids then standing.close reason else standing :=
  Effect.of_foldl_idempotent (fun hub id => (hub.close id reason).1) (Standing.close reason)
    (Standing.close_close reason) (fun _ id wellFormed => effect_close wellFormed id reason)
    ids wellFormed

theorem effect_shutdown :
    Effect hub hub.shutdown.1 fun _ standing => standing.close .serverShutdown := by
  refine (effect_closeAll wellFormed .serverShutdown hub.registered).congr fun id => ?_
  split
  · rfl
  · rename_i absent
    have unregistered : ¬(hub.standing id).registered = true := mt isRegistered_iff.1 absent
    rw [Standing.close, if_neg unregistered]

end Functions

end EventHub.Hub
