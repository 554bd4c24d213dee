import EventHub.Hub.Subscription

/-!
The subscription index as one connection sees it: the types it is listed under and its filter for
each type. Every change of the index is a change of one connection's holding and leaves all other
holdings as they are.
-/

namespace EventHub

structure Holding where
  types : Option NameSet
  filter : EventType → Option ClusterFilter

namespace Holding

def none : Holding where
  types := .none
  filter := fun _ => .none

def held (holding : Holding) : NameSet :=
  holding.types.getD ∅

def wants (holding : Holding) (event : Event) : Bool :=
  (holding.filter event.eventType).any fun filter => filter.accepts event.cluster

def insert (filter : ClusterFilter) (holding : Holding) (eventType : EventType) : Holding where
  types := some (holding.held.insert eventType)
  filter := fun other => if other = eventType then some filter else holding.filter other

def insertAll (filter : ClusterFilter) (eventTypes : List EventType) (holding : Holding) :
    Holding :=
  eventTypes.foldl (insert filter) holding

def erase (holding : Holding) (eventType : EventType) : Holding where
  types :=
    if (holding.held.erase eventType).isEmpty then .none
    else some (holding.held.erase eventType)
  filter := fun other => if other = eventType then .none else holding.filter other

def eraseAll (eventTypes : List EventType) (holding : Holding) : Holding :=
  eventTypes.foldl erase holding

/-- Everything listed is given up; a filter for a type that is not listed would stay. -/
def clear (holding : Holding) : Holding where
  types := .none
  filter := fun eventType =>
    if eventType ∈ holding.held then .none else holding.filter eventType

def newTypes (holding : Holding) (eventTypes : List EventType) : NameSet :=
  NameSet.ofList (eventTypes.filter fun eventType => !holding.held.contains eventType)

/-- The types held and the types requested stay within the cap. -/
def fits (holding : Holding) (cap : Nat) (eventTypes : List EventType) : Bool :=
  holding.held.size + (holding.newTypes eventTypes).size ≤ cap

/-- There is an entry on one side of the index or the other. -/
def Occurs (holding : Holding) : Prop :=
  holding.types.isSome = true ∨ ∃ eventType, (holding.filter eventType).isSome = true

theorem not_occurs_none : ¬none.Occurs := by
  simp [Occurs, none]

@[simp] theorem held_insert (holding : Holding) (filter : ClusterFilter) (eventType : EventType) :
    (insert filter holding eventType).held = holding.held.insert eventType := rfl

theorem held_erase (holding : Holding) (eventType : EventType) :
    (holding.erase eventType).held = holding.held.erase eventType := by
  rw [held, erase]
  split
  · rename_i nothingLeft
    exact (NameSet.isEmpty_iff.1 nothingLeft).symm
  · rfl

/-! Both sides agree on what is held, and a cap on requests bounds it. -/

def Consistent (holding : Holding) : Prop :=
  ∀ eventType, (holding.filter eventType).isSome = true ↔ eventType ∈ holding.held

theorem consistent_none : none.Consistent := by
  intro eventType
  simp [none, held, NameSet.mem_iff, EmptyCollection.emptyCollection, NameSet.empty]

theorem Consistent.insert {holding : Holding} (consistent : holding.Consistent)
    (filter : ClusterFilter) (eventType : EventType) :
    (insert filter holding eventType).Consistent := by
  intro other
  rw [held_insert, NameSet.mem_insert, ← consistent other]
  simp only [Holding.insert]
  split <;> simp_all

theorem Consistent.insertAll {holding : Holding} (consistent : holding.Consistent)
    (filter : ClusterFilter) (eventTypes : List EventType) :
    (holding.insertAll filter eventTypes).Consistent := by
  induction eventTypes generalizing holding with
  | nil => exact consistent
  | cons eventType rest ih => exact ih (consistent.insert filter eventType)

theorem Consistent.erase {holding : Holding} (consistent : holding.Consistent)
    (eventType : EventType) : (holding.erase eventType).Consistent := by
  intro other
  rw [held_erase, NameSet.mem_erase, ← consistent other]
  simp only [Holding.erase]
  split <;> simp_all

theorem Consistent.eraseAll {holding : Holding} (consistent : holding.Consistent)
    (eventTypes : List EventType) : (holding.eraseAll eventTypes).Consistent := by
  induction eventTypes generalizing holding with
  | nil => exact consistent
  | cons eventType rest ih => exact ih (consistent.erase eventType)

theorem Consistent.clear_eq_none {holding : Holding} (consistent : holding.Consistent) :
    holding.clear = none := by
  simp only [clear, none]
  congr 1
  funext eventType
  split
  · rfl
  · rename_i absent
    have missing := mt (consistent eventType).1 absent
    simpa using missing

theorem eraseAll_none (eventTypes : List EventType) : none.eraseAll eventTypes = none := by
  induction eventTypes with
  | nil => rfl
  | cons eventType rest ih =>
      have erase_none : none.erase eventType = none := by
        simp only [erase, none]
        congr 1
        funext other
        split <;> rfl
      rw [eraseAll, List.foldl_cons, erase_none]
      exact ih

theorem filter_insertAll {holding : Holding} {filter stored : ClusterFilter}
    {eventTypes : List EventType} {eventType : EventType}
    (found : (holding.insertAll filter eventTypes).filter eventType = some stored) :
    stored = filter ∨ holding.filter eventType = some stored := by
  induction eventTypes generalizing holding with
  | nil => exact Or.inr found
  | cons first rest ih =>
      rcases ih found with same | found
      · exact Or.inl same
      · simp only [insert] at found
        split at found
        · exact Or.inl (Option.some.inj found).symm
        · exact Or.inr found

theorem filter_eraseAll {holding : Holding} {stored : ClusterFilter}
    {eventTypes : List EventType} {eventType : EventType}
    (found : (holding.eraseAll eventTypes).filter eventType = some stored) :
    holding.filter eventType = some stored := by
  induction eventTypes generalizing holding with
  | nil => exact found
  | cons first rest ih =>
      have found := ih found
      simp only [erase] at found
      split at found
      · cases found
      · exact found

theorem mem_held_insertAll {holding : Holding} {filter : ClusterFilter}
    {eventTypes : List EventType} {eventType : EventType} :
    eventType ∈ (holding.insertAll filter eventTypes).held ↔
      eventType ∈ eventTypes ∨ eventType ∈ holding.held := by
  induction eventTypes generalizing holding with
  | nil => simp [insertAll]
  | cons first rest ih =>
      rw [insertAll, List.foldl_cons]
      rw [show rest.foldl (Holding.insert filter) (insert filter holding first) =
        (insert filter holding first).insertAll filter rest from rfl, ih]
      rw [held_insert, NameSet.mem_insert, List.mem_cons]
      constructor
      · rintro (h | h | h) <;> simp [h]
      · rintro ((h | h) | h) <;> simp [h]

theorem size_held_insertAll_le (holding : Holding) (filter : ClusterFilter)
    (eventTypes : List EventType) :
    (holding.insertAll filter eventTypes).held.size ≤
      holding.held.size + (holding.newTypes eventTypes).size := by
  rw [NameSet.size, NameSet.size, NameSet.size, ← List.length_append]
  apply List.Nodup.length_le_of_subset (NameSet.nodup_names _)
  intro eventType member
  rcases mem_held_insertAll.1 (NameSet.mem_iff.2 member) with requested | held
  · by_cases held : eventType ∈ holding.held
    · exact List.mem_append_left _ held
    · apply List.mem_append_right
      apply NameSet.mem_ofList.2
      simpa [requested, NameSet.contains, NameSet.mem_iff] using held
  · exact List.mem_append_left _ held

theorem size_held_eraseAll_le (holding : Holding) (eventTypes : List EventType) :
    (holding.eraseAll eventTypes).held.size ≤ holding.held.size := by
  induction eventTypes generalizing holding with
  | nil => exact Nat.le_refl _
  | cons eventType rest ih =>
      apply Nat.le_trans (ih (holding.erase eventType))
      rw [held_erase]
      exact List.length_filter_le _ _

end Holding

namespace SubscriptionIndex

def holding (index : SubscriptionIndex) (id : ConnectionId) : Holding where
  types := index.byConnection.get? id
  filter := index.filter? id

@[simp] theorem held_holding (index : SubscriptionIndex) (id : ConnectionId) :
    (index.holding id).held = index.typesOf id := rfl

theorem subscribers_setSubscribers
    (byType : Table EventType (Table ConnectionId ClusterFilter)) (eventType : EventType)
    (subscribers : Table ConnectionId ClusterFilter) (other : EventType) :
    ((setSubscribers byType eventType subscribers).get? other).getD ∅ =
      if other = eventType then subscribers else (byType.get? other).getD ∅ := by
  simp only [setSubscribers]
  split
  · rename_i isEmpty
    rw [Table.get?_erase, Table.isEmpty_iff.1 isEmpty]
    split <;> rfl
  · rw [Table.get?_insert]
    split <;> rfl

theorem holding_insert (index : SubscriptionIndex) (id : ConnectionId) (filter : ClusterFilter)
    (eventType : EventType) (other : ConnectionId) :
    (index.insert id filter eventType).holding other =
      if other = id then (index.holding id).insert filter eventType else index.holding other := by
  by_cases same : other = id
  · subst same
    simp only [holding, insert, if_true, Holding.insert, Table.get?_insert]
    congr 1
    funext requested
    simp only [filter?, subscribers, Table.get?_insert]
    split <;> simp
  · simp only [holding, insert, same, if_false, Table.get?_insert]
    congr 1
    funext requested
    simp only [filter?, subscribers, Table.get?_insert]
    split
    · rename_i requested_eq
      subst requested_eq
      simp [same]
    · rfl

theorem holding_erase (index : SubscriptionIndex) (id : ConnectionId) (eventType : EventType)
    (other : ConnectionId) :
    (index.erase id eventType).holding other =
      if other = id then (index.holding id).erase eventType else index.holding other := by
  have types_eq : (setTypes index.byConnection id ((index.typesOf id).erase eventType)).get? other =
      if other = id then ((index.holding id).erase eventType).types
      else index.byConnection.get? other := by
    by_cases nothingLeft : ((index.typesOf id).erase eventType).isEmpty = true
    · have types_none : ((index.holding id).erase eventType).types = none := if_pos nothingLeft
      rw [setTypes, if_pos nothingLeft, types_none, Table.get?_erase]
    · have types_some : ((index.holding id).erase eventType).types =
          some ((index.typesOf id).erase eventType) := if_neg nothingLeft
      rw [setTypes, if_neg nothingLeft, types_some, Table.get?_insert]
  have filter_eq (requested : EventType) : (index.erase id eventType).filter? other requested =
      if other = id ∧ requested = eventType then none else index.filter? other requested := by
    simp only [filter?, subscribers, erase, subscribers_setSubscribers]
    by_cases sameType : requested = eventType
    · subst sameType
      simp
    · simp [sameType]
  by_cases same : other = id
  · subst same
    simp only [if_true, true_and] at types_eq filter_eq ⊢
    simp only [holding, Holding.erase]
    congr 1
    funext requested
    exact filter_eq requested
  · simp only [same, if_false, false_and] at types_eq filter_eq ⊢
    simp only [holding]
    congr 1
    funext requested
    exact filter_eq requested

theorem holding_insertAll (id : ConnectionId) (filter : ClusterFilter)
    (eventTypes : List EventType) (index : SubscriptionIndex) (other : ConnectionId) :
    (eventTypes.foldl (fun index eventType => index.insert id filter eventType) index).holding
        other =
      if other = id then (index.holding id).insertAll filter eventTypes
      else index.holding other := by
  induction eventTypes generalizing index with
  | nil =>
      simp only [List.foldl_nil, Holding.insertAll]
      split
      · rename_i same
        rw [same]
      · rfl
  | cons eventType rest ih =>
      rw [List.foldl_cons, ih, holding_insert, holding_insert]
      simp only [Holding.insertAll, List.foldl_cons, if_true]
      split <;> rfl

/-- The cap is checked against the connection's own holding only. -/
theorem subscribeMany_eq (index : SubscriptionIndex) (cap : Nat) (id : ConnectionId)
    (eventTypes : List EventType) (filter : ClusterFilter) :
    index.subscribeMany cap id eventTypes filter =
      if (index.holding id).fits cap eventTypes then
        .ok (eventTypes.foldl (fun index eventType => index.insert id filter eventType) index,
          ((index.holding id).newTypes eventTypes).size)
      else .error (.subscriptionLimitExceeded cap) := by
  have newTypes_eq : (index.holding id).newTypes eventTypes = index.newTypes id eventTypes := rfl
  rw [Holding.fits, newTypes_eq, held_holding]
  by_cases fits : (index.typesOf id).size + (index.newTypes id eventTypes).size ≤ cap
  · rw [if_pos (decide_eq_true fits)]
    exact if_neg (Nat.not_lt.2 fits)
  · rw [if_neg (by simpa using fits)]
    exact if_pos (Nat.lt_of_not_le fits)

theorem holding_unsubscribeMany (id : ConnectionId) (eventTypes : List EventType)
    (index : SubscriptionIndex) (other : ConnectionId) :
    (index.unsubscribeMany id eventTypes).1.holding other =
      if other = id then (index.holding id).eraseAll eventTypes else index.holding other := by
  induction eventTypes generalizing index with
  | nil =>
      simp only [unsubscribeMany, Holding.eraseAll, List.foldl_nil]
      split
      · rename_i same
        rw [same]
      · rfl
  | cons eventType rest ih =>
      simp only [unsubscribeMany, unsubscribe, ih, holding_erase, Holding.eraseAll,
        List.foldl_cons, if_true]
      split <;> rfl

theorem filter_eraseTypes (id : ConnectionId) (names : List EventType)
    (byType : Table EventType (Table ConnectionId ClusterFilter)) (other : ConnectionId)
    (eventType : EventType) :
    (((names.foldl (fun byType eventType =>
          setSubscribers byType eventType (((byType.get? eventType).getD ∅).erase id))
        byType).get? eventType).getD ∅).get? other =
      if other = id ∧ eventType ∈ names then none
      else ((byType.get? eventType).getD ∅).get? other := by
  induction names generalizing byType with
  | nil => simp
  | cons name rest ih =>
      rw [List.foldl_cons, ih, subscribers_setSubscribers]
      by_cases sameId : other = id
      · by_cases sameType : eventType = name
        · subst sameType
          simp [sameId]
        · simp [sameId, sameType]
      · by_cases sameType : eventType = name
        · subst sameType
          simp [sameId]
        · simp [sameId, sameType]

theorem holding_unsubscribeAll (index : SubscriptionIndex) (id other : ConnectionId) :
    (index.unsubscribeAll id).1.holding other =
      if other = id then (index.holding id).clear else index.holding other := by
  have filter_eq (eventType : EventType) : (index.unsubscribeAll id).1.filter? other eventType =
      if other = id ∧ eventType ∈ index.typesOf id then none
      else index.filter? other eventType :=
    filter_eraseTypes id (index.typesOf id).names index.byType other eventType
  by_cases same : other = id
  · subst same
    simp only [true_and] at filter_eq
    simp only [holding, Holding.clear, if_true]
    congr 1
    · simp [unsubscribeAll]
    · funext eventType
      exact filter_eq eventType
  · simp only [same, false_and, if_false] at filter_eq
    simp only [holding, same, if_false]
    congr 1
    · simp [unsubscribeAll, same]
    · funext eventType
      exact filter_eq eventType

theorem mem_matching {index : SubscriptionIndex} {event : Event} {id : ConnectionId} :
    id ∈ index.matching event.eventType event.cluster ↔ (index.holding id).wants event = true := by
  simp only [matching, List.mem_map, List.mem_filter, Holding.wants, holding, filter?,
    Option.any_eq_true, Table.get?_eq_some_iff]
  constructor
  · rintro ⟨⟨found, filter⟩, ⟨member, accepted⟩, rfl⟩
    exact ⟨filter, member, accepted⟩
  · rintro ⟨filter, member, accepted⟩
    exact ⟨(id, filter), ⟨member, accepted⟩, rfl⟩

theorem nodup_matching (index : SubscriptionIndex) (eventType : EventType) (cluster : String) :
    (index.matching eventType cluster).Nodup :=
  (index.subscribers eventType).distinct.sublist (List.filter_sublist.map _)

theorem length_subscriptionsOf_le (index : SubscriptionIndex) (id : ConnectionId) :
    (index.subscriptionsOf id).length ≤ index.countFor id :=
  List.length_filterMap_le _ _

theorem references_iff {index : SubscriptionIndex} {id : ConnectionId} :
    index.references id = true ↔ (index.holding id).Occurs := by
  simp only [references, Bool.or_eq_true, List.any_eq_true, Holding.Occurs, holding,
    Table.contains]
  constructor
  · rintro (listed | ⟨subscribers, stored, listed⟩)
    · exact Or.inl listed
    · obtain ⟨⟨eventType, stored'⟩, member, rfl⟩ := List.mem_map.1 stored
      refine Or.inr ⟨eventType, ?_⟩
      rw [filter?, SubscriptionIndex.subscribers, Table.get?_eq_some_iff.2 member]
      exact listed
  · rintro (listed | ⟨eventType, listed⟩)
    · exact Or.inl listed
    · right
      rw [filter?, SubscriptionIndex.subscribers] at listed
      cases stored : index.byType.get? eventType with
      | none =>
          rw [stored] at listed
          cases (show false = true from listed)
      | some subscribers =>
          rw [stored] at listed
          exact ⟨subscribers, List.mem_map.2 ⟨_, Table.get?_eq_some_iff.1 stored, rfl⟩, listed⟩

end SubscriptionIndex

end EventHub
