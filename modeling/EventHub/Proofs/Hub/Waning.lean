import EventHub.Proofs.Hub.SubscriptionHistory
import EventHub.Proofs.Hub.Traffic

/-!
What the statistics of subscriptions count. The size of the index is what was ever added less what
was given up: type by type, or with a whole connection that leaves the registry.
-/

namespace EventHub

theorem NameSet.size_erase (set : NameSet) (name : String) :
    (set.erase name).size + (if name ∈ set then 1 else 0) = set.size := by
  by_cases member : name ∈ set
  · rw [if_pos member]
    exact length_filter_ne set.nodup_names member
  · rw [if_neg member]
    refine congrArg List.length (List.filter_eq_self.2 fun other isOther => ?_)
    have apart : other ≠ name := fun same => member (same ▸ isOther)
    simpa using apart

theorem Holding.size_held_insertAll (holding : Holding) (filter : ClusterFilter)
    (eventTypes : List EventType) :
    (holding.insertAll filter eventTypes).held.size =
      holding.held.size + (holding.newTypes eventTypes).size := by
  rw [NameSet.size, NameSet.size, NameSet.size, ← List.length_append]
  have distinct : (holding.held.names ++ (holding.newTypes eventTypes).names).Nodup := by
    rw [List.nodup_append]
    refine ⟨NameSet.nodup_names _, NameSet.nodup_names _, ?_⟩
    rintro held isHeld _ isNew rfl
    have requested := NameSet.mem_ofList.1 (NameSet.mem_iff.2 isNew)
    have fresh := (List.mem_filter.1 requested).2
    rw [NameSet.contains, List.contains_iff_mem.2 isHeld] at fresh
    cases fresh
  refine ((List.perm_ext_iff_of_nodup (NameSet.nodup_names _) distinct).2 fun name => ?_).length_eq
  have member : name ∈ (holding.insertAll filter eventTypes).held.names ↔
      name ∈ eventTypes ∨ name ∈ holding.held := mem_held_insertAll
  have isNew : name ∈ (holding.newTypes eventTypes).names ↔
      name ∈ eventTypes ∧ name ∉ holding.held := by
    rw [← NameSet.mem_iff, Holding.newTypes, NameSet.mem_ofList]
    simp [NameSet.contains, NameSet.mem_iff]
  rw [member, List.mem_append, isNew, ← NameSet.mem_iff]
  by_cases held : name ∈ holding.held
  · simp [held]
  · simp [held]

namespace SubscriptionIndex

variable {index next : SubscriptionIndex} {id : ConnectionId}

theorem size_eq_sum {ids : List ConnectionId} (distinct : ids.Nodup)
    (complete : ∀ id eventType, eventType ∈ index.typesOf id → id ∈ ids) :
    index.size = (ids.map index.countFor).sum := by
  have nodup : (ids.flatMap fun id =>
      (index.typesOf id).names.map fun eventType => (id, eventType)).Nodup := by
    rw [List.nodup_flatMap]
    constructor
    · intro id _
      exact (NameSet.nodup_names _).map fun left right same => congrArg Prod.snd same
    · refine distinct.imp fun {left right} apart => ?_
      rw [Function.onFun, List.disjoint_left]
      rintro pair inLeft inRight
      obtain ⟨_, -, rfl⟩ := List.mem_map.1 inLeft
      obtain ⟨_, -, same⟩ := List.mem_map.1 inRight
      exact apart (congrArg Prod.fst same).symm
  have perm : index.pairs.Perm (ids.flatMap fun id =>
      (index.typesOf id).names.map fun eventType => (id, eventType)) := by
    rw [List.perm_ext_iff_of_nodup index.nodup_pairs nodup]
    rintro ⟨id, eventType⟩
    simp only [mem_pairs, List.mem_flatMap, List.mem_map, Prod.mk.injEq]
    constructor
    · intro held
      exact ⟨id, complete id eventType held, eventType, held, rfl, rfl⟩
    · rintro ⟨_, -, _, held, rfl, rfl⟩
      exact held
  rw [size_eq_length_pairs, perm.length_eq, List.length_flatMap]
  congr 1
  exact List.map_congr_left fun id _ => List.length_map _

theorem size_change (others : ∀ other, other ≠ id → next.typesOf other = index.typesOf other) :
    next.size + index.countFor id = index.size + next.countFor id := by
  let rest := ((index.pairs ++ next.pairs).map Prod.fst).dedup.filter fun other => other ≠ id
  have distinct : (id :: rest).Nodup :=
    List.nodup_cons.2 ⟨by simp [rest], (List.nodup_dedup _).filter _⟩
  have complete {some : SubscriptionIndex} (sub : some.pairs ⊆ index.pairs ++ next.pairs) :
      ∀ other eventType, eventType ∈ some.typesOf other → other ∈ id :: rest := by
    intro other eventType held
    by_cases own : other = id
    · exact own ▸ List.mem_cons_self
    · have listed := List.mem_map_of_mem (f := Prod.fst) (sub (mem_pairs.2 held))
      exact List.mem_cons_of_mem id
        (List.mem_filter.2 ⟨List.mem_dedup.2 listed, by simpa using own⟩)
  rw [size_eq_sum distinct (complete (List.subset_append_left _ _)),
    size_eq_sum distinct (complete (List.subset_append_right _ _)), List.map_cons, List.map_cons,
    List.sum_cons, List.sum_cons]
  have same : rest.map next.countFor = rest.map index.countFor := by
    refine List.map_congr_left fun other member => ?_
    have apart : other ≠ id := by simpa using (List.mem_filter.1 member).2
    rw [countFor, others other apart, countFor]
  rw [same]
  omega

theorem size_holding {own : Holding} (changed : ∀ other,
      next.holding other = if other = id then own else index.holding other) :
    next.size + (index.holding id).held.size = index.size + own.held.size := by
  have others (other : ConnectionId) (apart : other ≠ id) :
      next.typesOf other = index.typesOf other := by
    rw [← held_holding, changed other, if_neg apart, held_holding]
  have sizes := size_change others
  have becomes : next.countFor id = own.held.size := by
    rw [countFor, ← held_holding, changed id, if_pos rfl]
  rw [becomes] at sizes
  exact sizes

theorem size_subscribeMany {cap : Nat} {eventTypes : List EventType} {filter : ClusterFilter}
    {added : Nat} (accepted : index.subscribeMany cap id eventTypes filter = .ok (next, added)) :
    next.size = index.size + added := by
  rw [subscribeMany_eq] at accepted
  split at accepted
  · cases accepted
    have sizes := size_holding (holding_insertAll id filter eventTypes index)
    rw [Holding.size_held_insertAll] at sizes
    omega
  · cases accepted

theorem size_erase (consistent : (index.holding id).Consistent) (eventType : EventType) :
    (index.erase id eventType).size + (if (index.filter? id eventType).isSome then 1 else 0) =
      index.size := by
  have sizes := size_holding (index.holding_erase id eventType)
  have listed : (index.filter? id eventType).isSome = true ↔
      eventType ∈ (index.holding id).held := consistent eventType
  have fewer := (index.holding id).held.size_erase eventType
  rw [Holding.held_erase] at sizes
  rw [if_congr listed rfl rfl]
  omega

theorem size_unsubscribeMany (consistent : (index.holding id).Consistent)
    (eventTypes : List EventType) :
    (index.unsubscribeMany id eventTypes).1.size + (index.unsubscribeMany id eventTypes).2 =
      index.size := by
  induction eventTypes generalizing index with
  | nil => rfl
  | cons eventType rest ih =>
      have first := size_erase consistent eventType
      have erased : ((index.erase id eventType).holding id).Consistent := by
        rw [holding_erase, if_pos rfl]
        exact consistent.erase eventType
      have later := ih erased
      simp only [unsubscribeMany, unsubscribe]
      rw [← Nat.add_assoc, later]
      exact first

end SubscriptionIndex

namespace Hub

variable {hub middle next : Hub}

theorem isRegistered_of_typesOf (sound : hub.Sound) {id : ConnectionId} {eventType : EventType}
    (held : eventType ∈ hub.index.typesOf id) : hub.isRegistered id = true := by
  cases registered : hub.isRegistered id with
  | true => rfl
  | false =>
      have none : hub.index.holding id = .none := (sound.standing id).holding_eq_none registered
      rw [← SubscriptionIndex.held_holding, none] at held
      cases held

theorem size_eq_sum (sound : hub.Sound) :
    hub.index.size = (hub.registered.map hub.index.countFor).sum :=
  SubscriptionIndex.size_eq_sum sound.wellFormed.distinct fun _ _ held =>
    isRegistered_iff.1 (isRegistered_of_typesOf sound held)

/-- The statistics count a subscription once, when it is added. -/
theorem size_subscribe (hub : Hub) (id : ConnectionId) (events : List EventType)
    (clusters : List String) :
    (hub.subscribe id events clusters).1.index.size + hub.totals.subscriptions =
      hub.index.size + (hub.subscribe id events clusters).1.totals.subscriptions := by
  rcases hub.subscribe_cases id events clusters with refused | ⟨_, index, added, stores, accepted⟩
  · rw [refused]
  · rw [accepted]
    have size := SubscriptionIndex.size_subscribeMany stores
    change index.size + _ = _ + (hub.totals.subscriptions + added)
    omega

theorem size_unsubscribe (sound : hub.Sound) (id : ConnectionId) (events : List EventType) :
    (hub.unsubscribe id events).1.index.size + (hub.unsubscribe id events).2 = hub.index.size :=
  SubscriptionIndex.size_unsubscribeMany (sound.standing id).consistent events

/-- Those who leave the registry on the way from one hub to the other. -/
def parted (hub next : Hub) : List ConnectionId :=
  hub.registered.filter fun id => !next.isRegistered id

/-- The subscriptions that go with them. -/
def forgone (hub next : Hub) : Nat :=
  ((hub.parted next).map hub.index.countFor).sum

/-- Connections may leave; those who stay keep what they hold, and nobody adds to it. -/
structure Wanes (hub next : Hub) : Prop where
  kept : ∀ id, next.isRegistered id = true → hub.isRegistered id = true ∧
    next.index.holding id = hub.index.holding id
  subscriptions : next.totals.subscriptions = hub.totals.subscriptions

namespace Wanes

theorem of_same (registered : next.registered = hub.registered) (index : next.index = hub.index)
    (totals : next.totals.subscriptions = hub.totals.subscriptions) : Wanes hub next where
  kept := by
    intro id stays
    rw [Hub.isRegistered, registered] at stays
    exact ⟨stays, by rw [index]⟩
  subscriptions := totals

theorem refl (hub : Hub) : Wanes hub hub :=
  .of_same rfl rfl rfl

theorem trans (first : Wanes hub middle) (second : Wanes middle next) : Wanes hub next where
  kept := by
    intro id registered
    obtain ⟨between, later⟩ := second.kept id registered
    obtain ⟨before, earlier⟩ := first.kept id between
    exact ⟨before, later.trans earlier⟩
  subscriptions := second.subscriptions.trans first.subscriptions

/-- Only those who leave take subscriptions with them. -/
theorem size (wanes : Wanes hub next) (sound : hub.Sound) (soundNext : next.Sound) :
    next.index.size + hub.forgone next = hub.index.size := by
  let stayed := hub.registered.filter next.isRegistered
  have complete (id : ConnectionId) (eventType : EventType)
      (held : eventType ∈ next.index.typesOf id) : id ∈ stayed := by
    have registered := isRegistered_of_typesOf soundNext held
    exact List.mem_filter.2 ⟨isRegistered_iff.1 (wanes.kept id registered).1, registered⟩
  have sizeNext := SubscriptionIndex.size_eq_sum (sound.wellFormed.distinct.filter _) complete
  have same : stayed.map next.index.countFor = stayed.map hub.index.countFor := by
    refine List.map_congr_left fun id member => ?_
    have holding := (wanes.kept id (List.mem_filter.1 member).2).2
    rw [SubscriptionIndex.countFor, ← SubscriptionIndex.held_holding, holding]
    rfl
  have parts := ((List.filter_append_perm next.isRegistered hub.registered).map
    hub.index.countFor).sum_eq
  rw [List.map_append, List.sum_append] at parts
  rw [sizeNext, same, size_eq_sum sound]
  exact parts

end Wanes

/-- What nobody asks a connection for leaves it its subscriptions, or takes it from the registry. -/
theorem holding_of_isStaid {config : HubConfig} {id : ConnectionId} {operation : Operation}
    (staid : operation.isStaid = true) (standing : Standing)
    (stays : (standing.apply config id operation).registered = true) :
    standing.registered = true ∧
      (standing.apply config id operation).holding = standing.holding := by
  have left (reason : CloseReason) (standing : Standing)
      (stays : (standing.leave reason).registered = true) :
      standing.registered = true ∧ (standing.leave reason).holding = standing.holding := by
    rw [Standing.leave] at stays ⊢
    split at stays
    · cases stays
    · exact ⟨stays, by rw [if_neg]; assumption⟩
  have closed (reason : CloseReason) (standing : Standing)
      (stays : (standing.close reason).registered = true) :
      standing.registered = true ∧ (standing.close reason).holding = standing.holding := by
    rw [Standing.close] at stays ⊢
    split at stays
    · rename_i registered
      rw [if_pos registered]
      exact left reason standing stays
    · rename_i unregistered
      rw [if_neg unregistered]
      exact ⟨stays, rfl⟩
  have visited (now : Instant) (stamp : UInt64) :
      (standing.visit config.heartbeat now stamp).registered = standing.registered ∧
        (standing.visit config.heartbeat now stamp).holding = standing.holding := by
    rw [Standing.visit]
    split <;> exact ⟨rfl, rfl⟩
  cases operation with
  | register _ _ _ | subscribe _ _ _ | unsubscribe _ _ | route _ => cases staid
  | dequeue _ | clear _ | tend _ _ | beginDraining _ _ | markClosed _ | finishClose _ _
  | report _ => exact ⟨stays, rfl⟩
  | beginClose _ reason => exact left reason standing stays
  | close _ reason => exact closed reason standing stays
  | shutdown => exact closed .serverShutdown standing stays
  | survey now stamp => exact ⟨(visited now stamp).1 ▸ stays, (visited now stamp).2⟩
  | tick now stamp =>
      simp only [Standing.apply, Standing.tick] at stays ⊢
      obtain ⟨registered, holding⟩ := visited now stamp
      split at stays
      · rename_i condemned
        obtain ⟨before, same⟩ := closed .heartbeatTimeout _ stays
        rw [if_pos condemned]
        exact ⟨registered ▸ before, same.trans holding⟩
      · rename_i spared
        rw [if_neg spared]
        exact ⟨registered ▸ stays, holding⟩

theorem wanes_apply (wellFormed : hub.WellFormed) {operation : Operation}
    (staid : operation.isStaid = true) : Wanes hub (hub.apply operation) where
  kept := by
    intro id stays
    have effect := (effect_apply wellFormed operation).standing id
    have registered : ((hub.apply operation).standing id).registered = true := stays
    rw [effect] at registered
    have holding := congrArg Standing.holding effect
    split at registered
    · rename_i concerned
      obtain ⟨before, same⟩ := holding_of_isStaid staid (hub.standing id) registered
      rw [if_pos concerned] at holding
      exact ⟨before, holding.trans same⟩
    · rename_i unconcerned
      rw [if_neg unconcerned] at holding
      exact ⟨registered, holding⟩
  subscriptions := by
    obtain ⟨evictions, totals⟩ := totals_apply wellFormed staid
    rw [totals]

theorem wanes_route (wellFormed : hub.WellFormed) (event : Event) :
    Wanes hub (hub.route event).1 := by
  have quiet := quiet_deliveries wellFormed event
  refine .of_same quiet.registered quiet.index ?_
  rw [totals_route wellFormed]

theorem Quiet.wanes (quiet : Quiet hub next) : Wanes hub next :=
  .of_same quiet.registered quiet.index (congrArg HubTotals.subscriptions quiet.totals)

/-- So many subscriptions are given up from one hub to the other; those that are new are counted. -/
def Tallies (hub : Hub) (removed : Nat) (next : Hub) : Prop :=
  next.index.size + removed + hub.totals.subscriptions =
    hub.index.size + next.totals.subscriptions

theorem Wanes.tallies (wanes : Wanes hub next) (sound : hub.Sound) (soundNext : next.Sound) :
    Tallies hub (hub.forgone next) next := by
  have size := wanes.size sound soundNext
  rw [Tallies, wanes.subscriptions]
  omega

theorem forgone_of_stays (stays : ∀ id, hub.isRegistered id = true → next.isRegistered id = true) :
    hub.forgone next = 0 := by
  have nobody : hub.parted next = [] := by
    refine List.filter_eq_nil_iff.2 fun id member => ?_
    simp [stays id (isRegistered_iff.2 member)]
  rw [forgone, nobody]
  rfl

theorem registered_subscribe (hub : Hub) (id : ConnectionId) (events : List EventType)
    (clusters : List String) :
    (hub.subscribe id events clusters).1.registered = hub.registered := by
  rcases hub.subscribe_cases id events clusters with refused | ⟨_, _, _, -, accepted⟩
  · rw [refused]
  · rw [accepted]

theorem tallies_admission (wellFormed : hub.WellFormed) (id : ConnectionId) (identity : Identity)
    (version : UInt32) :
    Tallies hub (hub.forgone (hub.admission id identity version))
      (hub.admission id identity version) := by
  have effect := effect_admission wellFormed id identity version
  rw [forgone_of_stays]
  · rw [admission, register]
    split
    · rfl
    · split <;> rfl
  · intro other registered
    have turned := congrArg Standing.registered (effect.standing other)
    refine turned.trans ?_
    split
    · rfl
    · exact registered

end Hub

end EventHub
