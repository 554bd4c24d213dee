import EventHub.Proofs.Hub.Holding
import Mathlib.Data.Finmap

/-!
The subscription index is one finite map from connections and event types to cluster filters, kept
from two sides. Every operation on the index is an operation on the map, and every answer of the
index can be read off the map.
-/

namespace EventHub

/-- The filter of each connection for each event type that it is subscribed to. -/
abbrev SubscriptionMap : Type :=
  Finmap fun _ : ConnectionId × EventType => ClusterFilter

namespace SubscriptionMap

def typesOf (map : SubscriptionMap) (id : ConnectionId) : Finset EventType :=
  (map.keys.filter fun pair => pair.1 = id).image fun pair => pair.2

@[simp] theorem mem_typesOf {map : SubscriptionMap} {id : ConnectionId} {eventType : EventType} :
    eventType ∈ map.typesOf id ↔ (id, eventType) ∈ map := by
  simp only [typesOf, Finset.mem_image, Finset.mem_filter, Finmap.mem_keys, Prod.exists]
  constructor
  · rintro ⟨other, found, ⟨member, rfl⟩, rfl⟩
    exact member
  · intro member
    exact ⟨id, eventType, ⟨member, rfl⟩, rfl⟩

def insertAll (map : SubscriptionMap) (id : ConnectionId) (filter : ClusterFilter)
    (eventTypes : List EventType) : SubscriptionMap :=
  eventTypes.foldl (fun map eventType => map.insert (id, eventType) filter) map

def eraseAll (map : SubscriptionMap) (id : ConnectionId) (eventTypes : List EventType) :
    SubscriptionMap :=
  eventTypes.foldl (fun map eventType => map.erase (id, eventType)) map

theorem lookup_insert (map : SubscriptionMap) (id : ConnectionId) (filter : ClusterFilter)
    (eventType : EventType) (pair : ConnectionId × EventType) :
    (Finmap.insert (id, eventType) filter map).lookup pair =
      if pair.1 = id ∧ pair.2 = eventType then some filter else map.lookup pair := by
  by_cases same : pair = (id, eventType)
  · subst same
    simp
  · have apart : ¬(pair.1 = id ∧ pair.2 = eventType) := fun ⟨left, right⟩ =>
      same (Prod.ext left right)
    rw [Finmap.lookup_insert_of_ne map same, if_neg apart]

theorem lookup_erase (map : SubscriptionMap) (id : ConnectionId) (eventType : EventType)
    (pair : ConnectionId × EventType) :
    (Finmap.erase (id, eventType) map).lookup pair =
      if pair.1 = id ∧ pair.2 = eventType then none else map.lookup pair := by
  by_cases same : pair = (id, eventType)
  · subst same
    simp
  · have apart : ¬(pair.1 = id ∧ pair.2 = eventType) := fun ⟨left, right⟩ =>
      same (Prod.ext left right)
    rw [Finmap.lookup_erase_ne same, if_neg apart]

theorem lookup_insertAll (map : SubscriptionMap) (id : ConnectionId) (filter : ClusterFilter)
    (eventTypes : List EventType) (pair : ConnectionId × EventType) :
    (map.insertAll id filter eventTypes).lookup pair =
      if pair.1 = id ∧ pair.2 ∈ eventTypes then some filter else map.lookup pair := by
  induction eventTypes generalizing map with
  | nil => simp [insertAll]
  | cons eventType rest ih =>
      have later := ih (map.insert (id, eventType) filter)
      rw [insertAll, List.foldl_cons]
      refine later.trans ?_
      rw [lookup_insert]
      by_cases own : pair.1 = id
      · by_cases first : pair.2 = eventType
        · simp [own, first]
        · simp [own, first]
      · simp [own]

theorem lookup_eraseAll (map : SubscriptionMap) (id : ConnectionId)
    (eventTypes : List EventType) (pair : ConnectionId × EventType) :
    (map.eraseAll id eventTypes).lookup pair =
      if pair.1 = id ∧ pair.2 ∈ eventTypes then none else map.lookup pair := by
  induction eventTypes generalizing map with
  | nil => simp [eraseAll]
  | cons eventType rest ih =>
      have later := ih (map.erase (id, eventType))
      rw [eraseAll, List.foldl_cons]
      refine later.trans ?_
      rw [lookup_erase]
      by_cases own : pair.1 = id
      · by_cases first : pair.2 = eventType
        · simp [own, first]
        · simp [own, first]
      · simp [own]

end SubscriptionMap

namespace SubscriptionIndex

variable {index : SubscriptionIndex} {map : SubscriptionMap}

/-! Emptied tables and sets are thrown away on both sides. -/

def KeepsNoEmptyTable (byType : Table EventType (Table ConnectionId ClusterFilter)) : Prop :=
  ∀ eventType subscribers, byType.get? eventType = some subscribers → subscribers.isEmpty = false

def KeepsNoEmptySet (byConnection : Table ConnectionId NameSet) : Prop :=
  ∀ id types, byConnection.get? id = some types → types.isEmpty = false

theorem keepsNoEmptyTable_insert {byType : Table EventType (Table ConnectionId ClusterFilter)}
    (keeps : KeepsNoEmptyTable byType) (eventType : EventType)
    {subscribers : Table ConnectionId ClusterFilter} (inhabited : subscribers.isEmpty = false) :
    KeepsNoEmptyTable (byType.insert eventType subscribers) := by
  intro other stored found
  rw [Table.get?_insert] at found
  split at found
  · cases found
    exact inhabited
  · exact keeps other stored found

theorem keepsNoEmptyTable_setSubscribers
    {byType : Table EventType (Table ConnectionId ClusterFilter)}
    (keeps : KeepsNoEmptyTable byType) (eventType : EventType)
    (subscribers : Table ConnectionId ClusterFilter) :
    KeepsNoEmptyTable (setSubscribers byType eventType subscribers) := by
  rw [setSubscribers]
  split
  · intro other stored found
    rw [Table.get?_erase] at found
    split at found
    · cases found
    · exact keeps other stored found
  · rename_i inhabited
    exact keepsNoEmptyTable_insert keeps eventType (by simpa using inhabited)

theorem keepsNoEmptySet_insert {byConnection : Table ConnectionId NameSet}
    (keeps : KeepsNoEmptySet byConnection) (id : ConnectionId) {types : NameSet}
    (inhabited : types.isEmpty = false) : KeepsNoEmptySet (byConnection.insert id types) := by
  intro other stored found
  rw [Table.get?_insert] at found
  split at found
  · cases found
    exact inhabited
  · exact keeps other stored found

theorem keepsNoEmptySet_erase {byConnection : Table ConnectionId NameSet}
    (keeps : KeepsNoEmptySet byConnection) (id : ConnectionId) :
    KeepsNoEmptySet (byConnection.erase id) := by
  intro other stored found
  rw [Table.get?_erase] at found
  split at found
  · cases found
  · exact keeps other stored found

theorem keepsNoEmptySet_setTypes {byConnection : Table ConnectionId NameSet}
    (keeps : KeepsNoEmptySet byConnection) (id : ConnectionId) (types : NameSet) :
    KeepsNoEmptySet (setTypes byConnection id types) := by
  rw [setTypes]
  split
  · exact keepsNoEmptySet_erase keeps id
  · rename_i inhabited
    exact keepsNoEmptySet_insert keeps id (by simpa using inhabited)

theorem keepsNoEmptyTable_eraseTypes (id : ConnectionId) (names : List EventType)
    {byType : Table EventType (Table ConnectionId ClusterFilter)}
    (keeps : KeepsNoEmptyTable byType) :
    KeepsNoEmptyTable (names.foldl (fun byType eventType =>
      setSubscribers byType eventType (((byType.get? eventType).getD ∅).erase id)) byType) := by
  induction names generalizing byType with
  | nil => exact keeps
  | cons name rest ih => exact ih (keepsNoEmptyTable_setSubscribers keeps name _)

/-! What each change does to the two views of a pair. -/

theorem filter?_insert (index : SubscriptionIndex) (id : ConnectionId) (filter : ClusterFilter)
    (eventType : EventType) (other : ConnectionId) (requested : EventType) :
    (index.insert id filter eventType).filter? other requested =
      if other = id ∧ requested = eventType then some filter
      else index.filter? other requested := by
  simp only [filter?, subscribers, insert, Table.get?_insert]
  by_cases sameType : requested = eventType
  · subst sameType
    simp
  · simp [sameType]

theorem mem_typesOf_insert {id other : ConnectionId} {filter : ClusterFilter}
    {eventType requested : EventType} :
    requested ∈ (index.insert id filter eventType).typesOf other ↔
      (other = id ∧ requested = eventType) ∨ requested ∈ index.typesOf other := by
  by_cases own : other = id
  · subst own
    simp [typesOf, insert]
  · simp [typesOf, insert, own]

theorem filter?_erase (index : SubscriptionIndex) (id : ConnectionId) (eventType : EventType)
    (other : ConnectionId) (requested : EventType) :
    (index.erase id eventType).filter? other requested =
      if other = id ∧ requested = eventType then none else index.filter? other requested := by
  simp only [filter?, subscribers, erase, subscribers_setSubscribers]
  by_cases sameType : requested = eventType
  · subst sameType
    simp
  · simp [sameType]

theorem mem_typesOf_erase {id other : ConnectionId} {eventType requested : EventType} :
    requested ∈ (index.erase id eventType).typesOf other ↔
      ¬(other = id ∧ requested = eventType) ∧ requested ∈ index.typesOf other := by
  have held : (index.erase id eventType).typesOf other = _ :=
    congrArg Holding.held (index.holding_erase id eventType other)
  rw [held]
  by_cases own : other = id
  · subst own
    simp [Holding.held_erase, and_comm]
  · simp [own]

theorem filter?_unsubscribeAll (index : SubscriptionIndex) (id other : ConnectionId)
    (requested : EventType) :
    (index.unsubscribeAll id).1.filter? other requested =
      if other = id ∧ requested ∈ index.typesOf id then none
      else index.filter? other requested :=
  filter_eraseTypes id (index.typesOf id).names index.byType other requested

theorem typesOf_unsubscribeAll (index : SubscriptionIndex) (id other : ConnectionId) :
    (index.unsubscribeAll id).1.typesOf other = if other = id then ∅ else index.typesOf other := by
  rw [typesOf, unsubscribeAll, Table.get?_erase]
  split
  · rfl
  · rfl

/-- Both sides of the index are views of one map, and neither keeps anything beside it. -/
structure Refines (index : SubscriptionIndex) (map : SubscriptionMap) : Prop where
  byType : ∀ id eventType, index.filter? id eventType = map.lookup (id, eventType)
  byConnection : ∀ id eventType, eventType ∈ index.typesOf id ↔ (id, eventType) ∈ map
  noEmptyTable : KeepsNoEmptyTable index.byType
  noEmptySet : KeepsNoEmptySet index.byConnection

theorem Refines.unique (refines : index.Refines map) {other : SubscriptionMap}
    (refinesOther : index.Refines other) : other = map := by
  apply Finmap.ext_lookup
  rintro ⟨id, eventType⟩
  rw [← refinesOther.byType, ← refines.byType]

theorem refines_empty : empty.Refines ∅ where
  byType := fun _ _ => rfl
  byConnection := by
    intro id eventType
    have absent : (id, eventType) ∉ (∅ : SubscriptionMap) := Finmap.notMem_empty
    exact iff_of_false (fun member => nomatch member) absent
  noEmptyTable := fun _ _ found => nomatch found
  noEmptySet := fun _ _ found => nomatch found

/-! Each change of the index is a change of the map. -/

theorem Refines.insert (refines : index.Refines map) (id : ConnectionId) (filter : ClusterFilter)
    (eventType : EventType) :
    (index.insert id filter eventType).Refines (Finmap.insert (id, eventType) filter map) where
  byType := by
    intro other requested
    rw [filter?_insert, SubscriptionMap.lookup_insert, refines.byType]
  byConnection := by
    intro other requested
    rw [Finmap.mem_insert, Prod.mk.injEq, ← refines.byConnection]
    exact mem_typesOf_insert
  noEmptyTable := by
    refine keepsNoEmptyTable_insert refines.noEmptyTable eventType ?_
    rw [Bool.eq_false_iff]
    intro isEmpty
    have found := Table.get?_insert (index.subscribers eventType) id filter id
    rw [Table.isEmpty_iff.1 isEmpty, if_pos rfl] at found
    cases found
  noEmptySet := by
    refine keepsNoEmptySet_insert refines.noEmptySet id ?_
    rw [Bool.eq_false_iff]
    intro isEmpty
    have member : eventType ∈ (index.typesOf id).insert eventType :=
      NameSet.mem_insert.2 (Or.inl rfl)
    rw [NameSet.isEmpty_iff.1 isEmpty] at member
    cases member

theorem Refines.insertAll (refines : index.Refines map) (id : ConnectionId)
    (filter : ClusterFilter) (eventTypes : List EventType) :
    (eventTypes.foldl (fun index eventType => index.insert id filter eventType) index).Refines
      (map.insertAll id filter eventTypes) := by
  induction eventTypes generalizing index map with
  | nil => exact refines
  | cons eventType rest ih => exact ih (refines.insert id filter eventType)

theorem Refines.erase (refines : index.Refines map) (id : ConnectionId) (eventType : EventType) :
    (index.erase id eventType).Refines (Finmap.erase (id, eventType) map) where
  byType := by
    intro other requested
    rw [filter?_erase, SubscriptionMap.lookup_erase, refines.byType]
  byConnection := by
    intro other requested
    rw [Finmap.mem_erase, ne_eq, Prod.mk.injEq, ← refines.byConnection]
    exact mem_typesOf_erase
  noEmptyTable := keepsNoEmptyTable_setSubscribers refines.noEmptyTable eventType _
  noEmptySet := keepsNoEmptySet_setTypes refines.noEmptySet id _

/-- What the index lists for a connection is all that the map has for it. -/
theorem Refines.lookup_eraseOwn (refines : index.Refines map) (id : ConnectionId)
    (pair : ConnectionId × EventType) :
    (map.eraseAll id (index.typesOf id).names).lookup pair =
      if pair.1 = id then none else map.lookup pair := by
  obtain ⟨other, requested⟩ := pair
  rw [SubscriptionMap.lookup_eraseAll]
  by_cases own : other = id
  · subst own
    by_cases listed : requested ∈ (index.typesOf other).names
    · simp [listed]
    · have absent := mt (refines.byConnection other requested).2 listed
      simpa [listed] using Finmap.lookup_eq_none.2 absent
  · simp [own]

theorem Refines.unsubscribeAll (refines : index.Refines map) (id : ConnectionId) :
    (index.unsubscribeAll id).1.Refines (map.eraseAll id (index.typesOf id).names) where
  byType := by
    intro other requested
    rw [filter?_unsubscribeAll, SubscriptionMap.lookup_eraseAll, refines.byType]
    rfl
  byConnection := by
    intro other requested
    rw [typesOf_unsubscribeAll, ← Finmap.lookup_isSome, refines.lookup_eraseOwn]
    by_cases own : other = id
    · simp only [own, if_true, Option.isSome_none, Bool.false_eq_true, iff_false]
      exact fun member => nomatch member
    · simp only [own, if_false, Finmap.lookup_isSome]
      exact refines.byConnection other requested
  noEmptyTable := keepsNoEmptyTable_eraseTypes id _ refines.noEmptyTable
  noEmptySet := keepsNoEmptySet_erase refines.noEmptySet id

end SubscriptionIndex

end EventHub
