import EventHub.Proofs.Hub.SubscriptionMap

/-!
Histories of the subscription index. After any sequence of operations the index refines one map,
and the map alone decides what the next operation answers and leaves and what every question about
the index is answered with.
-/

namespace EventHub

inductive SubscriptionIndex.Operation where
  | subscribe (id : ConnectionId) (eventType : EventType) (filter : ClusterFilter)
  | subscribeMany (id : ConnectionId) (eventTypes : List EventType) (filter : ClusterFilter)
  | unsubscribe (id : ConnectionId) (eventType : EventType)
  | unsubscribeAll (id : ConnectionId)
  deriving DecidableEq

theorem SubscriptionMap.card_new_eq_one (map : SubscriptionMap) (id : ConnectionId)
    (eventType : EventType) :
    (({eventType} \ map.typesOf id).card == 1) = decide ((id, eventType) ∉ map) := by
  by_cases held : (id, eventType) ∈ map
  · have nothingNew : {eventType} \ map.typesOf id = ∅ := by
      simpa [Finset.sdiff_eq_empty_iff_subset] using held
    rw [nothingNew]
    simp [held]
  · have allNew : {eventType} \ map.typesOf id = {eventType} := by
      simpa [Finset.sdiff_eq_self_iff_disjoint] using held
    rw [allNew]
    simp [held]

namespace SubscriptionIndex

variable {index : SubscriptionIndex} {map : SubscriptionMap}

/-- A refused request leaves the index as it is. -/
def apply (cap : Nat) (index : SubscriptionIndex) (operation : Operation) : SubscriptionIndex :=
  match operation with
  | .subscribe id eventType filter =>
      match index.subscribe cap id eventType filter with
      | .ok (next, _) => next
      | .error _ => index
  | .subscribeMany id eventTypes filter =>
      match index.subscribeMany cap id eventTypes filter with
      | .ok (next, _) => next
      | .error _ => index
  | .unsubscribe id eventType => (index.unsubscribe id eventType).1
  | .unsubscribeAll id => (index.unsubscribeAll id).1

/-- The index that a sequence of operations leaves of an empty one. -/
def run (cap : Nat) (operations : List Operation) : SubscriptionIndex :=
  operations.foldl (apply cap) empty

/-! Sizes of the lists that the index keeps are cardinalities in the map. -/

theorem Refines.toFinset_typesOf (refines : index.Refines map) (id : ConnectionId) :
    (index.typesOf id).names.toFinset = map.typesOf id := by
  ext eventType
  rw [List.mem_toFinset, SubscriptionMap.mem_typesOf]
  exact refines.byConnection id eventType

theorem Refines.countFor_eq (refines : index.Refines map) (id : ConnectionId) :
    index.countFor id = (map.typesOf id).card := by
  rw [← refines.toFinset_typesOf, List.toFinset_card_of_nodup (NameSet.nodup_names _)]
  rfl

theorem size_newTypes_eq_card (index : SubscriptionIndex) (id : ConnectionId)
    (eventTypes : List EventType) :
    (index.newTypes id eventTypes).size =
      (eventTypes.toFinset \ (index.typesOf id).names.toFinset).card := by
  have new_eq : (index.newTypes id eventTypes).names.toFinset =
      eventTypes.toFinset \ (index.typesOf id).names.toFinset := by
    ext eventType
    rw [List.mem_toFinset, ← NameSet.mem_iff, newTypes, NameSet.mem_ofList, List.mem_filter,
      Finset.mem_sdiff, List.mem_toFinset, List.mem_toFinset, ← NameSet.mem_iff,
      ← NameSet.contains_iff]
    simp
  rw [← new_eq, List.toFinset_card_of_nodup (NameSet.nodup_names _)]
  rfl

/-- What a connection holds and what is new to it make up the union that the cap is about. -/
theorem countFor_add_size_newTypes (index : SubscriptionIndex) (id : ConnectionId)
    (eventTypes : List EventType) :
    index.countFor id + (index.newTypes id eventTypes).size =
      ((index.typesOf id).names.toFinset ∪ eventTypes.toFinset).card := by
  have held : index.countFor id = (index.typesOf id).names.toFinset.card :=
    (List.toFinset_card_of_nodup (NameSet.nodup_names _)).symm
  rw [held, size_newTypes_eq_card, Nat.add_comm, Finset.card_sdiff_add_card, Finset.union_comm]

theorem Refines.size_newTypes (refines : index.Refines map) (id : ConnectionId)
    (eventTypes : List EventType) :
    (index.newTypes id eventTypes).size = (eventTypes.toFinset \ map.typesOf id).card := by
  rw [size_newTypes_eq_card, refines.toFinset_typesOf]

theorem Refines.card_union (refines : index.Refines map) (id : ConnectionId)
    (eventTypes : List EventType) :
    index.countFor id + (index.newTypes id eventTypes).size =
      (map.typesOf id ∪ eventTypes.toFinset).card := by
  rw [countFor_add_size_newTypes, refines.toFinset_typesOf]

/-! Requests for several types. -/

theorem Refines.subscribeMany_refused (refines : index.Refines map) {cap : Nat}
    {id : ConnectionId} {eventTypes : List EventType}
    (tooMany : cap < (map.typesOf id ∪ eventTypes.toFinset).card) (filter : ClusterFilter) :
    index.subscribeMany cap id eventTypes filter = .error (.subscriptionLimitExceeded cap) := by
  rw [← refines.card_union] at tooMany
  exact if_pos tooMany

theorem Refines.subscribeMany_accepted (refines : index.Refines map) {cap : Nat}
    {id : ConnectionId} {eventTypes : List EventType}
    (fits : (map.typesOf id ∪ eventTypes.toFinset).card ≤ cap) (filter : ClusterFilter) :
    ∃ next, index.subscribeMany cap id eventTypes filter =
        .ok (next, (eventTypes.toFinset \ map.typesOf id).card) ∧
      next.Refines (map.insertAll id filter eventTypes) := by
  rw [← refines.card_union] at fits
  refine ⟨_, ?_, refines.insertAll id filter eventTypes⟩
  rw [← refines.size_newTypes]
  exact if_neg (Nat.not_lt.2 fits)

theorem toFinset_singleton (eventType : EventType) : [eventType].toFinset = {eventType} := by
  simp

theorem Refines.subscribe_refused (refines : index.Refines map) {cap : Nat} {id : ConnectionId}
    {eventType : EventType} (tooMany : cap < (map.typesOf id ∪ {eventType}).card)
    (filter : ClusterFilter) :
    index.subscribe cap id eventType filter = .error (.subscriptionLimitExceeded cap) := by
  rw [← toFinset_singleton] at tooMany
  rw [subscribe, refines.subscribeMany_refused tooMany]
  rfl

theorem Refines.subscribe_accepted (refines : index.Refines map) {cap : Nat} {id : ConnectionId}
    {eventType : EventType} (fits : (map.typesOf id ∪ {eventType}).card ≤ cap)
    (filter : ClusterFilter) :
    ∃ next, index.subscribe cap id eventType filter =
        .ok (next, decide ((id, eventType) ∉ map)) ∧
      next.Refines (Finmap.insert (id, eventType) filter map) := by
  rw [← toFinset_singleton] at fits
  obtain ⟨next, accepted, refinesNext⟩ := refines.subscribeMany_accepted fits filter
  refine ⟨next, ?_, refinesNext⟩
  rw [subscribe, accepted, toFinset_singleton, ← map.card_new_eq_one]
  rfl

/-! The index as a whole. -/

/-- Every connection with every type it is listed under. -/
def pairs (index : SubscriptionIndex) : List (ConnectionId × EventType) :=
  index.byConnection.entries.flatMap fun entry =>
    entry.2.names.map fun eventType => (entry.1, eventType)

theorem mem_pairs {id : ConnectionId} {eventType : EventType} :
    (id, eventType) ∈ index.pairs ↔ eventType ∈ index.typesOf id := by
  simp only [pairs, List.mem_flatMap, List.mem_map, Prod.mk.injEq, Prod.exists]
  constructor
  · rintro ⟨other, types, stored, requested, listed, rfl, rfl⟩
    rw [typesOf, Table.get?_eq_some_iff.2 stored]
    exact listed
  · intro listed
    cases stored : index.byConnection.get? id with
    | none =>
        rw [typesOf, stored] at listed
        cases listed
    | some types =>
        rw [typesOf, stored] at listed
        exact ⟨id, types, Table.get?_eq_some_iff.1 stored, eventType, listed, rfl, rfl⟩

theorem nodup_pairs (index : SubscriptionIndex) : index.pairs.Nodup := by
  rw [pairs, List.nodup_flatMap]
  constructor
  · intro entry _
    exact (NameSet.nodup_names entry.2).map fun left right same => congrArg Prod.snd same
  · have distinct := index.byConnection.distinct
    rw [List.Nodup, List.pairwise_map] at distinct
    refine distinct.imp fun {left right} apart => ?_
    rw [Function.onFun, List.disjoint_left]
    rintro pair inLeft inRight
    obtain ⟨_, -, rfl⟩ := List.mem_map.1 inLeft
    obtain ⟨_, -, same⟩ := List.mem_map.1 inRight
    exact apart (congrArg Prod.fst same).symm

theorem size_eq_length_pairs (index : SubscriptionIndex) : index.size = index.pairs.length := by
  rw [size, pairs, List.length_flatMap, ← List.sum_eq_foldl, Table.values, List.map_map]
  congr 1
  apply List.map_congr_left
  intro entry _
  exact (List.length_map _).symm

theorem Refines.size_eq (refines : index.Refines map) : index.size = map.keys.card := by
  have keys_eq : index.pairs.toFinset = map.keys := by
    ext ⟨id, eventType⟩
    rw [List.mem_toFinset, mem_pairs, Finmap.mem_keys, refines.byConnection]
  rw [size_eq_length_pairs, ← keys_eq, List.toFinset_card_of_nodup index.nodup_pairs]

/-- No empty set is left behind, so a listed connection is one with a pair in the map. -/
theorem Refines.listed_iff (refines : index.Refines map) {id : ConnectionId} :
    (index.byConnection.get? id).isSome = true ↔ ∃ eventType, (id, eventType) ∈ map := by
  constructor
  · intro listed
    obtain ⟨types, stored⟩ := Option.isSome_iff_exists.1 listed
    have inhabited : types.names.isEmpty = false := refines.noEmptySet id types stored
    obtain ⟨eventType, member⟩ := List.isEmpty_eq_false_iff_exists_mem.1 inhabited
    refine ⟨eventType, (refines.byConnection id eventType).1 ?_⟩
    rw [typesOf, stored]
    exact member
  · rintro ⟨eventType, member⟩
    have listed := (refines.byConnection id eventType).2 member
    cases stored : index.byConnection.get? id with
    | none =>
        rw [typesOf, stored] at listed
        cases listed
    | some types => rfl

theorem Refines.references_iff (refines : index.Refines map) {id : ConnectionId} :
    index.references id = true ↔ ∃ eventType, (id, eventType) ∈ map := by
  rw [SubscriptionIndex.references_iff, Holding.Occurs]
  constructor
  · rintro (listed | ⟨eventType, wanted⟩)
    · exact refines.listed_iff.1 listed
    · refine ⟨eventType, ?_⟩
      rw [← Finmap.lookup_isSome, ← refines.byType]
      exact wanted
  · intro held
    exact Or.inl (refines.listed_iff.2 held)

theorem Refines.isEmpty_iff (refines : index.Refines map) : index.isEmpty = true ↔ map = ∅ := by
  rw [isEmpty, Table.isEmpty, List.isEmpty_iff]
  constructor
  · intro nothingListed
    apply Finmap.ext_lookup
    rintro ⟨id, eventType⟩
    rw [Finmap.lookup_empty, Finmap.lookup_eq_none]
    intro held
    obtain ⟨types, stored⟩ := Option.isSome_iff_exists.1 (refines.listed_iff.2 ⟨eventType, held⟩)
    have member := Table.get?_eq_some_iff.1 stored
    rw [nothingListed] at member
    cases member
  · rintro rfl
    refine List.eq_nil_iff_forall_not_mem.2 ?_
    rintro ⟨id, types⟩ stored
    have found := Option.isSome_iff_exists.2 ⟨types, Table.get?_eq_some_iff.2 stored⟩
    obtain ⟨eventType, held⟩ := refines.listed_iff.1 found
    exact Finmap.notMem_empty held

theorem Refines.mem_subscriptionsOf (refines : index.Refines map) {id : ConnectionId}
    {eventType : EventType} {filter : ClusterFilter} :
    (eventType, filter) ∈ index.subscriptionsOf id ↔ map.lookup (id, eventType) = some filter := by
  simp only [subscriptionsOf, List.mem_filterMap, Option.map_eq_some_iff, Prod.mk.injEq,
    refines.byType]
  constructor
  · rintro ⟨requested, -, stored, found, rfl, rfl⟩
    exact found
  · intro found
    have held := Finmap.mem_of_lookup_eq_some found
    exact ⟨eventType, (refines.byConnection id eventType).2 held, filter, found, rfl, rfl⟩

theorem nodup_subscriptionsOf (index : SubscriptionIndex) (id : ConnectionId) :
    ((index.subscriptionsOf id).map (·.1)).Nodup := by
  have types_sublist : ((index.subscriptionsOf id).map (·.1)).Sublist
      (index.typesOf id).names := by
    rw [subscriptionsOf]
    induction (index.typesOf id).names with
    | nil => exact List.Sublist.slnil
    | cons eventType rest ih =>
        cases found : index.filter? id eventType with
        | none => simpa [found] using ih.cons eventType
        | some filter => simpa [found] using ih
  exact (NameSet.nodup_names _).sublist types_sublist

theorem Refines.mem_matching (refines : index.Refines map) {id : ConnectionId}
    {eventType : EventType} {cluster : String} :
    id ∈ index.matching eventType cluster ↔
      ∃ filter, map.lookup (id, eventType) = some filter ∧ filter.accepts cluster = true := by
  simp only [matching, List.mem_map, List.mem_filter, ← refines.byType, filter?,
    Table.get?_eq_some_iff]
  constructor
  · rintro ⟨⟨found, filter⟩, ⟨stored, accepted⟩, rfl⟩
    exact ⟨filter, stored, accepted⟩
  · rintro ⟨filter, stored, accepted⟩
    exact ⟨(id, filter), ⟨stored, accepted⟩, rfl⟩

/-- The map decides what an operation answers and which map it leaves, and it answers every
question about the index. -/
structure AnswersBy (cap : Nat) (index : SubscriptionIndex) (map : SubscriptionMap) : Prop where
  manyRefused : ∀ id eventTypes filter, cap < (map.typesOf id ∪ eventTypes.toFinset).card →
    index.subscribeMany cap id eventTypes filter = .error (.subscriptionLimitExceeded cap) ∧
      index.apply cap (.subscribeMany id eventTypes filter) = index
  manyAccepted : ∀ id eventTypes filter, (map.typesOf id ∪ eventTypes.toFinset).card ≤ cap →
    ∃ later, index.subscribeMany cap id eventTypes filter =
        .ok (index.apply cap (.subscribeMany id eventTypes filter),
          (eventTypes.toFinset \ map.typesOf id).card) ∧
      (index.apply cap (.subscribeMany id eventTypes filter)).Refines later ∧
      ∀ pair, later.lookup pair =
        if pair.1 = id ∧ pair.2 ∈ eventTypes then some filter else map.lookup pair
  oneRefused : ∀ id eventType filter, cap < (map.typesOf id ∪ {eventType}).card →
    index.subscribe cap id eventType filter = .error (.subscriptionLimitExceeded cap) ∧
      index.apply cap (.subscribe id eventType filter) = index
  oneAccepted : ∀ id eventType filter, (map.typesOf id ∪ {eventType}).card ≤ cap →
    ∃ later, index.subscribe cap id eventType filter =
        .ok (index.apply cap (.subscribe id eventType filter),
          decide ((id, eventType) ∉ map)) ∧
      (index.apply cap (.subscribe id eventType filter)).Refines later ∧
      ∀ pair, later.lookup pair =
        if pair.1 = id ∧ pair.2 = eventType then some filter else map.lookup pair
  oneRemoved : ∀ id eventType, ∃ later,
    index.unsubscribe id eventType =
        (index.apply cap (.unsubscribe id eventType), decide ((id, eventType) ∈ map)) ∧
      (index.apply cap (.unsubscribe id eventType)).Refines later ∧
      ∀ pair, later.lookup pair =
        if pair.1 = id ∧ pair.2 = eventType then none else map.lookup pair
  allRemoved : ∀ id, ∃ later,
    index.unsubscribeAll id = (index.apply cap (.unsubscribeAll id), (map.typesOf id).card) ∧
      (index.apply cap (.unsubscribeAll id)).Refines later ∧
      ∀ pair, later.lookup pair = if pair.1 = id then none else map.lookup pair
  matching : ∀ eventType cluster, (index.matching eventType cluster).Nodup ∧
    ∀ id, id ∈ index.matching eventType cluster ↔
      ∃ filter, map.lookup (id, eventType) = some filter ∧ filter.accepts cluster = true
  subscriptionsOf : ∀ id, ((index.subscriptionsOf id).map (·.1)).Nodup ∧
    ∀ eventType filter, (eventType, filter) ∈ index.subscriptionsOf id ↔
      map.lookup (id, eventType) = some filter
  countFor : ∀ id, index.countFor id = (map.typesOf id).card
  references : ∀ id, index.references id = true ↔ ∃ eventType, (id, eventType) ∈ map
  size : index.size = map.keys.card
  isEmpty : index.isEmpty = true ↔ map = ∅

theorem Refines.answersBy (refines : index.Refines map) (cap : Nat) :
    index.AnswersBy cap map where
  manyRefused := by
    intro id eventTypes filter tooMany
    have refused := refines.subscribeMany_refused tooMany filter
    exact ⟨refused, by rw [apply, refused]⟩
  manyAccepted := by
    intro id eventTypes filter fits
    obtain ⟨next, accepted, refinesNext⟩ := refines.subscribeMany_accepted fits filter
    have next_eq : index.apply cap (.subscribeMany id eventTypes filter) = next := by
      rw [apply, accepted]
    rw [next_eq]
    exact ⟨_, accepted, refinesNext, map.lookup_insertAll id filter eventTypes⟩
  oneRefused := by
    intro id eventType filter tooMany
    have refused := refines.subscribe_refused tooMany filter
    exact ⟨refused, by rw [apply, refused]⟩
  oneAccepted := by
    intro id eventType filter fits
    obtain ⟨next, accepted, refinesNext⟩ := refines.subscribe_accepted fits filter
    have next_eq : index.apply cap (.subscribe id eventType filter) = next := by
      rw [apply, accepted]
    rw [next_eq]
    exact ⟨_, accepted, refinesNext, map.lookup_insert id filter eventType⟩
  oneRemoved := by
    intro id eventType
    refine ⟨_, ?_, refines.erase id eventType, map.lookup_erase id eventType⟩
    rw [unsubscribe, refines.byType]
    exact congrArg (Prod.mk _) (Bool.eq_iff_iff.2 (by simp [Finmap.lookup_isSome]))
  allRemoved := by
    intro id
    refine ⟨_, ?_, refines.unsubscribeAll id, refines.lookup_eraseOwn id⟩
    rw [← refines.countFor_eq]
    rfl
  matching := fun eventType cluster =>
    ⟨index.nodup_matching eventType cluster, fun _ => refines.mem_matching⟩
  subscriptionsOf := fun id => ⟨index.nodup_subscriptionsOf id, fun _ _ =>
    refines.mem_subscriptionsOf⟩
  countFor := refines.countFor_eq
  references := fun _ => refines.references_iff
  size := refines.size_eq
  isEmpty := refines.isEmpty_iff

theorem Refines.apply (refines : index.Refines map) (cap : Nat) (operation : Operation) :
    ∃ later, (index.apply cap operation).Refines later := by
  have answers := refines.answersBy cap
  cases operation with
  | subscribe id eventType filter =>
      rcases Nat.lt_or_ge cap (map.typesOf id ∪ {eventType}).card with tooMany | fits
      · rw [(answers.oneRefused id eventType filter tooMany).2]
        exact ⟨map, refines⟩
      · obtain ⟨later, -, refinesLater, -⟩ := answers.oneAccepted id eventType filter fits
        exact ⟨later, refinesLater⟩
  | subscribeMany id eventTypes filter =>
      rcases Nat.lt_or_ge cap (map.typesOf id ∪ eventTypes.toFinset).card with tooMany | fits
      · rw [(answers.manyRefused id eventTypes filter tooMany).2]
        exact ⟨map, refines⟩
      · obtain ⟨later, -, refinesLater, -⟩ := answers.manyAccepted id eventTypes filter fits
        exact ⟨later, refinesLater⟩
  | unsubscribe id eventType => exact ⟨_, refines.erase id eventType⟩
  | unsubscribeAll id => exact ⟨_, refines.unsubscribeAll id⟩

theorem Refines.foldl_apply (refines : index.Refines map) (cap : Nat)
    (operations : List Operation) :
    ∃ later, (operations.foldl (SubscriptionIndex.apply cap) index).Refines later := by
  induction operations generalizing index map with
  | nil => exact ⟨map, refines⟩
  | cons operation rest ih =>
      obtain ⟨next, refinesNext⟩ := refines.apply cap operation
      exact ih refinesNext

/-- Whatever has been subscribed and unsubscribed, the index is the two views of exactly one map,
and that map decides everything the index answers. -/
theorem run_refines_map (cap : Nat) (operations : List Operation) :
    ∃ map, (run cap operations).Refines map ∧ (run cap operations).AnswersBy cap map ∧
      ∀ other, (run cap operations).Refines other → other = map := by
  obtain ⟨map, refines⟩ := refines_empty.foldl_apply cap operations
  exact ⟨map, refines, refines.answersBy cap, fun _ refinesOther => refines.unique refinesOther⟩

end SubscriptionIndex

end EventHub
