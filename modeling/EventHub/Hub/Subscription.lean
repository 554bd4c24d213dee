import EventHub.Hub.Error
import EventHub.Hub.Event
import EventHub.NameSet
import EventHub.Table

/-!
Which connections want an event. The index is kept from both sides, by event type for routing and
by connection for caps and teardown.
-/

namespace EventHub

/-- Clusters to hear from; an empty set stands for every cluster. -/
structure ClusterFilter where
  clusters : NameSet
  deriving DecidableEq

namespace ClusterFilter

def isAll (filter : ClusterFilter) : Bool :=
  filter.clusters.isEmpty

def accepts (filter : ClusterFilter) (cluster : String) : Bool :=
  filter.isAll || filter.clusters.contains cluster

end ClusterFilter

structure SubscriptionIndex where
  byType : Table EventType (Table ConnectionId ClusterFilter) := ∅
  byConnection : Table ConnectionId NameSet := ∅
  deriving DecidableEq

namespace SubscriptionIndex

def empty : SubscriptionIndex where
  byType := ∅

instance : EmptyCollection SubscriptionIndex := ⟨empty⟩

def subscribers (index : SubscriptionIndex) (eventType : EventType) :
    Table ConnectionId ClusterFilter :=
  (index.byType.get? eventType).getD ∅

def typesOf (index : SubscriptionIndex) (id : ConnectionId) : NameSet :=
  (index.byConnection.get? id).getD ∅

def filter? (index : SubscriptionIndex) (id : ConnectionId) (eventType : EventType) :
    Option ClusterFilter :=
  (index.subscribers eventType).get? id

def countFor (index : SubscriptionIndex) (id : ConnectionId) : Nat :=
  (index.typesOf id).size

/-- Stores the subscribers of a type; no empty table is kept. -/
def setSubscribers (byType : Table EventType (Table ConnectionId ClusterFilter))
    (eventType : EventType) (subscribers : Table ConnectionId ClusterFilter) :
    Table EventType (Table ConnectionId ClusterFilter) :=
  if subscribers.isEmpty then byType.erase eventType else byType.insert eventType subscribers

def setTypes (byConnection : Table ConnectionId NameSet) (id : ConnectionId) (types : NameSet) :
    Table ConnectionId NameSet :=
  if types.isEmpty then byConnection.erase id else byConnection.insert id types

def insert (index : SubscriptionIndex) (id : ConnectionId) (filter : ClusterFilter)
    (eventType : EventType) : SubscriptionIndex where
  byType := index.byType.insert eventType ((index.subscribers eventType).insert id filter)
  byConnection := index.byConnection.insert id ((index.typesOf id).insert eventType)

def erase (index : SubscriptionIndex) (id : ConnectionId) (eventType : EventType) :
    SubscriptionIndex where
  byType := setSubscribers index.byType eventType ((index.subscribers eventType).erase id)
  byConnection := setTypes index.byConnection id ((index.typesOf id).erase eventType)

/-- The requested types that the connection does not hold yet. -/
def newTypes (index : SubscriptionIndex) (id : ConnectionId) (eventTypes : List EventType) :
    NameSet :=
  NameSet.ofList (eventTypes.filter fun eventType => !(index.typesOf id).contains eventType)

/-- Stores one filter for all requested types, or nothing at all when the connection would then
hold more than `cap` types. Counts the types that are new. -/
def subscribeMany (index : SubscriptionIndex) (cap : Nat) (id : ConnectionId)
    (eventTypes : List EventType) (filter : ClusterFilter) :
    Except HubError (SubscriptionIndex × Nat) :=
  let added := (index.newTypes id eventTypes).size
  if cap < index.countFor id + added then .error (.subscriptionLimitExceeded cap)
  else .ok (eventTypes.foldl (fun index eventType => index.insert id filter eventType) index, added)

/-- Stores a filter for one type; the flag says that the type is new. -/
def subscribe (index : SubscriptionIndex) (cap : Nat) (id : ConnectionId)
    (eventType : EventType) (filter : ClusterFilter) : Except HubError (SubscriptionIndex × Bool) :=
  (index.subscribeMany cap id [eventType] filter).map fun (next, added) => (next, added == 1)

def unsubscribe (index : SubscriptionIndex) (id : ConnectionId) (eventType : EventType) :
    SubscriptionIndex × Bool :=
  (index.erase id eventType, (index.filter? id eventType).isSome)

def unsubscribeMany (index : SubscriptionIndex) (id : ConnectionId) :
    List EventType → SubscriptionIndex × Nat
  | [] => (index, 0)
  | eventType :: rest =>
      let (next, present) := index.unsubscribe id eventType
      let (last, count) := next.unsubscribeMany id rest
      (last, count + (if present then 1 else 0))

def unsubscribeAll (index : SubscriptionIndex) (id : ConnectionId) : SubscriptionIndex × Nat :=
  let types := index.typesOf id
  ({ byType := types.names.foldl (fun byType eventType =>
        setSubscribers byType eventType (((byType.get? eventType).getD ∅).erase id)) index.byType
     byConnection := index.byConnection.erase id },
    types.size)

def matching (index : SubscriptionIndex) (eventType : EventType) (cluster : String) :
    List ConnectionId :=
  ((index.subscribers eventType).entries.filter fun entry => entry.2.accepts cluster).map (·.1)

def subscriptionsOf (index : SubscriptionIndex) (id : ConnectionId) :
    List (EventType × ClusterFilter) :=
  (index.typesOf id).names.filterMap fun eventType =>
    (index.filter? id eventType).map fun filter => (eventType, filter)

def references (index : SubscriptionIndex) (id : ConnectionId) : Bool :=
  index.byConnection.contains id ||
    index.byType.values.any fun subscribers => subscribers.contains id

def size (index : SubscriptionIndex) : Nat :=
  (index.byConnection.values.map NameSet.size).foldl (· + ·) 0

def isEmpty (index : SubscriptionIndex) : Bool :=
  index.byConnection.isEmpty

end SubscriptionIndex

end EventHub
