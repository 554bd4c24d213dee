import EventHub.Proofs.Hub.Soundness
import EventHub.Proofs.Hub.SubscriptionHistory
import EventHub.Proofs.Text.Utf8

/-!
What becomes of a request to subscribe. The connection, the clusters and the number of types are
checked in this order, the first check that fails gives the answer and leaves everything as it was,
and a request that passes all of them changes the entries that it names and no others. To give up
subscriptions takes no check at all.
-/

namespace EventHub

namespace ClusterScope

variable {scope : ClusterScope} {clusters : List String} {cluster other : String}

/-- Of the requested clusters outside the scope, the one whose name comes first. -/
structure FirstDenied (scope : ClusterScope) (clusters : List String) (cluster : String) :
    Prop where
  requested : cluster ∈ clusters
  outside : scope.allows cluster = false
  least : ∀ other ∈ clusters, scope.allows other = false → Text.utf8 cluster ≤ Text.utf8 other

def Permits (scope : ClusterScope) (clusters : List String) : Prop :=
  ∀ cluster ∈ clusters, scope.allows cluster = true

/-- What is asked for; whoever asks for nothing gets what the scope has. -/
def granted (scope : ClusterScope) (clusters : List String) : NameSet :=
  match scope, clusters with
  | only allowed, [] => allowed
  | _, clusters => NameSet.ofList clusters

theorem FirstDenied.unique (first : scope.FirstDenied clusters cluster)
    (second : scope.FirstDenied clusters other) : cluster = other :=
  String.le_antisymm (Text.utf8_le_iff.1 (first.least other second.requested second.outside))
    (Text.utf8_le_iff.1 (second.least cluster first.requested first.outside))

theorem FirstDenied.not_permits (first : scope.FirstDenied clusters cluster) :
    ¬scope.Permits clusters := by
  intro permits
  cases (permits cluster first.requested).symm.trans first.outside

/-- The names of a set are in order, so that the first one found is the least. -/
theorem firstDenied_of_find? {allowed : NameSet}
    (found : ((NameSet.ofList clusters).names.find? fun cluster => !allowed.contains cluster) =
      some cluster) : (only allowed).FirstDenied clusters cluster := by
  obtain ⟨outside, earlier, later, names, passed⟩ := List.find?_eq_some_iff_append.1 found
  have mem_names (name : String) : name ∈ clusters ↔ name ∈ earlier ++ cluster :: later := by
    rw [← names, ← NameSet.mem_iff, NameSet.mem_ofList]
  have ordered := (NameSet.ofList clusters).ordered
  rw [names] at ordered
  have greater := (List.pairwise_cons.1 (List.pairwise_append.1 ordered).2.1).1
  refine ⟨(mem_names cluster).2 (by simp), by simpa [allows] using outside,
    fun other requested denied => ?_⟩
  rcases List.mem_append.1 ((mem_names other).1 requested) with before | after
  · have allowedOther := passed other before
    rw [allows] at denied
    simp [denied] at allowedOther
  · rcases List.mem_cons.1 after with rfl | after
    · exact List.le_refl _
    · exact List.le_of_lt (Text.utf8_lt_iff.2 (greater other after))

theorem narrow_cases (scope : ClusterScope) (clusters : List String) :
    (∃ cluster, scope.FirstDenied clusters cluster ∧
        scope.narrow (NameSet.ofList clusters) = .error cluster) ∨
      scope.Permits clusters ∧
        scope.narrow (NameSet.ofList clusters) = .ok (scope.granted clusters) := by
  cases scope with
  | all => exact .inr ⟨fun _ _ => rfl, rfl⟩
  | only allowed =>
      cases clusters with
      | nil => exact .inr ⟨nofun, rfl⟩
      | cons first rest =>
          have inhabited : (NameSet.ofList (first :: rest)).isEmpty = false := by
            rw [Bool.eq_false_iff]
            intro isEmpty
            have member : first ∈ NameSet.ofList (first :: rest) := by simp
            rw [NameSet.isEmpty_iff.1 isEmpty] at member
            cases member
          simp only [narrow, inhabited]
          cases found : (NameSet.ofList (first :: rest)).names.find? fun cluster =>
              !allowed.contains cluster with
          | some cluster => exact .inl ⟨cluster, firstDenied_of_find? found, rfl⟩
          | none =>
              refine .inr ⟨fun cluster requested => ?_, rfl⟩
              have member := NameSet.mem_ofList.2 requested
              simpa [allows] using List.find?_eq_none.1 found cluster member

end ClusterScope

theorem SubscriptionIndex.filter?_insertAll (index : SubscriptionIndex) (id : ConnectionId)
    (filter : ClusterFilter) (eventTypes : List EventType) (other : ConnectionId)
    (requested : EventType) :
    (eventTypes.foldl (fun index eventType => index.insert id filter eventType) index).filter?
        other requested =
      if other = id ∧ requested ∈ eventTypes then some filter
      else index.filter? other requested := by
  induction eventTypes generalizing index with
  | nil => simp
  | cons eventType rest ih =>
      rw [List.foldl_cons, ih, filter?_insert]
      by_cases own : other = id
      · by_cases first : requested = eventType
        · simp [own, first]
        · simp [own, first]
      · simp [own]

theorem SubscriptionIndex.filter?_unsubscribeMany (index : SubscriptionIndex) (id : ConnectionId)
    (eventTypes : List EventType) (other : ConnectionId) (requested : EventType) :
    (index.unsubscribeMany id eventTypes).1.filter? other requested =
      if other = id ∧ requested ∈ eventTypes then none else index.filter? other requested := by
  induction eventTypes generalizing index with
  | nil => simp [unsubscribeMany]
  | cons eventType rest ih =>
      simp only [unsubscribeMany, unsubscribe]
      rw [ih, filter?_erase]
      by_cases own : other = id
      · by_cases first : requested = eventType
        · simp [own, first]
        · simp [own, first]
      · simp [own]

theorem Holding.mem_held_eraseAll {holding : Holding} {eventTypes : List EventType}
    {eventType : EventType} :
    eventType ∈ (holding.eraseAll eventTypes).held ↔
      eventType ∈ holding.held ∧ eventType ∉ eventTypes := by
  induction eventTypes generalizing holding with
  | nil => simp [eraseAll]
  | cons first rest ih =>
      have erased : eventType ∈ (holding.eraseAll (first :: rest)).held ↔
          eventType ∈ (holding.erase first).held ∧ eventType ∉ rest := ih
      rw [erased, held_erase, NameSet.mem_erase, List.mem_cons, not_or, and_assoc]

namespace Hub

/-- The types that the connection is subscribed to. -/
def held (hub : Hub) (id : ConnectionId) : Finset EventType :=
  (hub.index.typesOf id).names.toFinset

/-- The requested types get the filter, and what is new is counted. -/
structure Stores (hub : Hub) (id : ConnectionId) (events : List EventType)
    (filter : ClusterFilter) (next : Hub) : Prop where
  stored : ∀ eventType ∈ events, next.index.filter? id eventType = some filter
  held : next.held id = hub.held id ∪ events.toFinset
  kept : ∀ other eventType, ¬(other = id ∧ eventType ∈ events) →
    next.index.filter? other eventType = hub.index.filter? other eventType
  others : ∀ other, other ≠ id → next.index.typesOf other = hub.index.typesOf other
  rest : next =
    { hub with
      index := next.index
      totals :=
        { hub.totals with
          subscriptions := hub.totals.subscriptions + (events.toFinset \ hub.held id).card } }

/-- The requested types are given up, as far as they were held. -/
structure Drops (hub : Hub) (id : ConnectionId) (events : List EventType) (next : Hub) :
    Prop where
  dropped : ∀ eventType ∈ events, next.index.filter? id eventType = none
  held : next.held id = hub.held id \ events.toFinset
  kept : ∀ other eventType, ¬(other = id ∧ eventType ∈ events) →
    next.index.filter? other eventType = hub.index.filter? other eventType
  others : ∀ other, other ≠ id → next.index.typesOf other = hub.index.typesOf other
  rest : next = { hub with index := next.index }

/-- The answer to a request, with what decides it. -/
inductive Subscribing (hub : Hub) (id : ConnectionId) (events : List EventType)
    (clusters : List String) : Prop where
  | closed (isClosed : hub.isOpen id = false)
      (answer : hub.subscribe id events clusters = (hub, .error (.connectionNotFound id)))
  | denied {connection : Connection} {cluster : String} (found : hub.get? id = some connection)
      (opened : connection.isOpen = true)
      (first : connection.identity.clusters.FirstDenied clusters cluster)
      (answer : hub.subscribe id events clusters = (hub, .error (.clusterNotPermitted cluster)))
  | exceeds {connection : Connection} (found : hub.get? id = some connection)
      (opened : connection.isOpen = true)
      (permits : connection.identity.clusters.Permits clusters)
      (tooMany : hub.config.maxSubscriptions < (hub.held id ∪ events.toFinset).card)
      (answer : hub.subscribe id events clusters =
        (hub, .error (.subscriptionLimitExceeded hub.config.maxSubscriptions)))
  | stores {connection : Connection} {next : Hub} (found : hub.get? id = some connection)
      (opened : connection.isOpen = true)
      (permits : connection.identity.clusters.Permits clusters)
      (fits : (hub.held id ∪ events.toFinset).card ≤ hub.config.maxSubscriptions)
      (answer : hub.subscribe id events clusters =
        (next, .ok { events, clusters := connection.identity.clusters.granted clusters }))
      (stores : hub.Stores id events ⟨connection.identity.clusters.granted clusters⟩ next)

variable {hub : Hub} {id : ConnectionId} {events : List EventType} {clusters : List String}

theorem stores_insertAll (hub : Hub) (id : ConnectionId) (events : List EventType)
    (filter : ClusterFilter) :
    hub.Stores id events filter
      { hub with
        index := events.foldl (fun index eventType => index.insert id filter eventType) hub.index
        totals :=
          { hub.totals with
            subscriptions :=
              hub.totals.subscriptions + (hub.index.newTypes id events).size } } where
  stored := by
    intro eventType requested
    rw [SubscriptionIndex.filter?_insertAll, if_pos ⟨rfl, requested⟩]
  held := by
    have holds := congrArg Holding.held (hub.index.holding_insertAll id filter events id)
    rw [if_pos rfl] at holds
    ext eventType
    rw [Hub.held, List.mem_toFinset, ← NameSet.mem_iff, ← SubscriptionIndex.held_holding, holds,
      Holding.mem_held_insertAll, Finset.mem_union, Hub.held, List.mem_toFinset, List.mem_toFinset,
      or_comm]
    rfl
  kept := by
    intro other eventType untouched
    rw [SubscriptionIndex.filter?_insertAll, if_neg untouched]
  others := by
    intro other different
    have holds := congrArg Holding.held (hub.index.holding_insertAll id filter events other)
    rwa [if_neg different] at holds
  rest := by
    rw [SubscriptionIndex.size_newTypes_eq_card]
    rfl

theorem drops_unsubscribe (hub : Hub) (id : ConnectionId) (events : List EventType) :
    hub.Drops id events (hub.unsubscribe id events).1 where
  dropped := by
    intro eventType requested
    exact (hub.index.filter?_unsubscribeMany id events id eventType).trans
      (if_pos ⟨rfl, requested⟩)
  held := by
    have holds := congrArg Holding.held
      (SubscriptionIndex.holding_unsubscribeMany id events hub.index id)
    rw [if_pos rfl] at holds
    ext eventType
    rw [Finset.mem_sdiff, Hub.held, Hub.held, List.mem_toFinset, List.mem_toFinset,
      List.mem_toFinset, ← NameSet.mem_iff, ← NameSet.mem_iff]
    exact (iff_of_eq (congrArg (eventType ∈ ·) holds)).trans Holding.mem_held_eraseAll
  kept := by
    intro other eventType untouched
    exact (hub.index.filter?_unsubscribeMany id events other eventType).trans (if_neg untouched)
  others := by
    intro other different
    have holds := congrArg Holding.held
      (SubscriptionIndex.holding_unsubscribeMany id events hub.index other)
    rwa [if_neg different] at holds
  rest := rfl

theorem subscribing (hub : Hub) (id : ConnectionId) (events : List EventType)
    (clusters : List String) : hub.Subscribing id events clusters := by
  cases found : hub.get? id with
  | none =>
      refine .closed (by rw [isOpen, found]; rfl) ?_
      simp only [subscribe, admitSubscribe, found]
  | some connection =>
      cases opened : connection.isOpen with
      | false =>
          refine .closed (by rw [isOpen, found]; exact opened) ?_
          simp only [subscribe, admitSubscribe, found, opened, Bool.false_eq_true, if_false]
      | true =>
          rcases connection.identity.clusters.narrow_cases clusters with
            ⟨cluster, first, refused⟩ | ⟨permits, narrowed⟩
          · refine .denied found opened first ?_
            simp only [subscribe, admitSubscribe, found, opened, refused, if_true]
          · have admitted : hub.admitSubscribe id clusters =
                .ok (connection.identity.clusters.granted clusters) := by
              simp only [admitSubscribe, found, opened, narrowed, if_true]
            have union : hub.index.countFor id + (hub.index.newTypes id events).size =
                (hub.held id ∪ events.toFinset).card :=
              hub.index.countFor_add_size_newTypes id events
            rcases Nat.lt_or_ge hub.config.maxSubscriptions
              (hub.held id ∪ events.toFinset).card with tooMany | fits
            · refine .exceeds found opened permits tooMany ?_
              simp only [subscribe, admitted, storeSubscriptions, SubscriptionIndex.subscribeMany,
                union, if_pos tooMany, Except.map]
            · refine .stores found opened permits fits ?_ (hub.stores_insertAll id events _)
              -- The index is no part of a connection, so the second check finds it open as well.
              have stillOpen (index : SubscriptionIndex) : isOpen { hub with index } id = true := by
                rw [isOpen, show get? { hub with index } id = hub.get? id from rfl, found]
                exact opened
              simp only [subscribe, admitted, storeSubscriptions, SubscriptionIndex.subscribeMany,
                union, if_neg (Nat.not_lt.2 fits), Except.map, confirmSubscribe, stillOpen, if_true]
              rfl

/-- What a request is answered with and what it changes, each part with what it depends on. -/
structure SubscribesExactly (hub : Hub) (id : ConnectionId) (events : List EventType)
    (clusters : List String) : Prop where
  notFound :
    (hub.subscribe id events clusters).2 = .error (.connectionNotFound id) ↔
      hub.isOpen id = false
  notPermitted : ∀ cluster,
    (hub.subscribe id events clusters).2 = .error (.clusterNotPermitted cluster) ↔
      ∃ connection, hub.get? id = some connection ∧ connection.isOpen = true ∧
        connection.identity.clusters.FirstDenied clusters cluster
  limitExceeded :
    (hub.subscribe id events clusters).2 =
        .error (.subscriptionLimitExceeded hub.config.maxSubscriptions) ↔
      ∃ connection, hub.get? id = some connection ∧ connection.isOpen = true ∧
        connection.identity.clusters.Permits clusters ∧
        hub.config.maxSubscriptions < (hub.held id ∪ events.toFinset).card
  refused : ∀ cause, (hub.subscribe id events clusters).2 = .error cause →
    (hub.subscribe id events clusters).1 = hub ∧
      (cause = .connectionNotFound id ∨ (∃ cluster, cause = .clusterNotPermitted cluster) ∨
        cause = .subscriptionLimitExceeded hub.config.maxSubscriptions)
  accepted : ∀ connection, hub.get? id = some connection → connection.isOpen = true →
    connection.identity.clusters.Permits clusters →
    (hub.held id ∪ events.toFinset).card ≤ hub.config.maxSubscriptions →
    (hub.subscribe id events clusters).2 =
        .ok { events, clusters := connection.identity.clusters.granted clusters } ∧
      hub.Stores id events ⟨connection.identity.clusters.granted clusters⟩
        (hub.subscribe id events clusters).1

theorem isOpen_eq_of_get? {connection : Connection} (found : hub.get? id = some connection) :
    hub.isOpen id = connection.isOpen := by
  rw [isOpen, found, Option.any_some]

theorem exists_get?_iff {connection : Connection} (found : hub.get? id = some connection)
    {holds : Connection → Prop} :
    (∃ stored, hub.get? id = some stored ∧ holds stored) ↔ holds connection := by
  rw [found]
  exact ⟨fun ⟨_, same, held⟩ => Option.some.inj same ▸ held, fun held => ⟨connection, rfl, held⟩⟩

theorem subscribesExactly (hub : Hub) (id : ConnectionId) (events : List EventType)
    (clusters : List String) : hub.SubscribesExactly id events clusters := by
  cases hub.subscribing id events clusters with
  | closed isClosed answer =>
      have unopened {connection : Connection} (found : hub.get? id = some connection)
          (opened : connection.isOpen = true) : False := by
        rw [isOpen_eq_of_get? found, opened] at isClosed
        cases isClosed
      constructor
      all_goals rw [answer]
      · exact iff_of_true rfl isClosed
      · exact fun cluster => iff_of_false nofun fun ⟨_, found, opened, _⟩ => unopened found opened
      · exact iff_of_false nofun fun ⟨_, found, opened, _⟩ => unopened found opened
      · rintro cause ⟨⟩
        exact ⟨rfl, .inl rfl⟩
      · exact fun connection found opened => (unopened found opened).elim
  | @denied connection cluster found opened first answer =>
      constructor
      all_goals rw [answer]
      · exact iff_of_false nofun (by simp [isOpen_eq_of_get? found, opened])
      · intro other
        rw [exists_get?_iff found]
        refine ⟨?_, fun ⟨_, firstOther⟩ => by rw [first.unique firstOther]⟩
        rintro ⟨⟩
        exact ⟨opened, first⟩
      · refine iff_of_false nofun fun exceeds => ?_
        exact first.not_permits ((exists_get?_iff found).1 exceeds).2.1
      · rintro cause ⟨⟩
        exact ⟨rfl, .inr (.inl ⟨cluster, rfl⟩)⟩
      · intro stored isFound _ permits
        cases found.symm.trans isFound
        exact (first.not_permits permits).elim
  | @exceeds connection found opened permits tooMany answer =>
      constructor
      all_goals rw [answer]
      · exact iff_of_false nofun (by simp [isOpen_eq_of_get? found, opened])
      · refine fun cluster => iff_of_false nofun fun denied => ?_
        exact ((exists_get?_iff found).1 denied).2.not_permits permits
      · exact iff_of_true rfl ⟨connection, found, opened, permits, tooMany⟩
      · rintro cause ⟨⟩
        exact ⟨rfl, .inr (.inr rfl)⟩
      · exact fun _ _ _ _ fits => (Nat.not_lt.2 fits tooMany).elim
  | @stores connection next found opened permits fits answer stores =>
      constructor
      all_goals rw [answer]
      · exact iff_of_false nofun (by simp [isOpen_eq_of_get? found, opened])
      · refine fun cluster => iff_of_false nofun fun denied => ?_
        exact ((exists_get?_iff found).1 denied).2.not_permits permits
      · exact iff_of_false nofun fun ⟨_, _, _, _, tooMany⟩ => Nat.not_lt.2 fits tooMany
      · exact nofun
      · intro stored isFound _ _ _
        cases found.symm.trans isFound
        exact ⟨rfl, stores⟩

/-- In whatever state the hub is: each request is answered by the first check that fails and then
changes nothing, or it is stored as a whole. What a connection holds is what it has filters for. -/
theorem subscribe_run (config : HubConfig) (operations : List Operation) (id : ConnectionId)
    (events : List EventType) (clusters : List String) :
    ((ofConfig config).run operations).SubscribesExactly id events clusters ∧
      ∀ other eventType, eventType ∈ ((ofConfig config).run operations).held other ↔
        (((ofConfig config).run operations).index.filter? other eventType).isSome = true := by
  refine ⟨subscribesExactly _ id events clusters, fun other eventType => ?_⟩
  have sound := ((sound_ofConfig config).run operations).standing other
  rw [Hub.held, List.mem_toFinset]
  exact (sound.consistent eventType).symm

end Hub

end EventHub
