import EventHub.Hub.Basic

/-!
Subscribing through the hub. A subscribe goes in sections, since a close may come in between:
a check that the connection is open and may see the clusters, the change of the index, and a
second check that takes everything back when a close has begun meanwhile.
-/

namespace EventHub

structure Subscribed where
  events : List EventType
  clusters : NameSet
  deriving DecidableEq

namespace Hub

/-- The clusters a connection would be subscribed to. -/
def admitSubscribe (hub : Hub) (id : ConnectionId) (clusters : List String) :
    Except HubError NameSet :=
  match hub.get? id with
  | some connection =>
      if connection.isOpen then
        match connection.identity.clusters.narrow (NameSet.ofList clusters) with
        | .ok narrowed => .ok narrowed
        | .error cluster => .error (.clusterNotPermitted cluster)
      else .error (.connectionNotFound id)
  | none => .error (.connectionNotFound id)

def storeSubscriptions (hub : Hub) (id : ConnectionId) (events : List EventType)
    (clusters : NameSet) : Except HubError (Hub × Nat) :=
  (hub.index.subscribeMany hub.config.maxSubscriptions id events ⟨clusters⟩).map
    fun (index, added) => ({ hub with index }, added)

def dropSubscriptions (hub : Hub) (id : ConnectionId) : Hub :=
  { hub with index := (hub.index.unsubscribeAll id).1 }

def countSubscriptions (hub : Hub) (added : Nat) : Hub :=
  { hub with totals := { hub.totals with subscriptions := hub.totals.subscriptions + added } }

def confirmSubscribe (hub : Hub) (id : ConnectionId) (events : List EventType)
    (clusters : NameSet) (added : Nat) : Hub × Except HubError Subscribed :=
  if hub.isOpen id then (hub.countSubscriptions added, .ok { events, clusters })
  else (hub.dropSubscriptions id, .error (.connectionNotFound id))

def subscribe (hub : Hub) (id : ConnectionId) (events : List EventType)
    (clusters : List String) : Hub × Except HubError Subscribed :=
  match hub.admitSubscribe id clusters with
  | .error cause => (hub, .error cause)
  | .ok narrowed =>
      match hub.storeSubscriptions id events narrowed with
      | .error cause => (hub, .error cause)
      | .ok (stored, added) => stored.confirmSubscribe id events narrowed added

def unsubscribe (hub : Hub) (id : ConnectionId) (events : List EventType) : Hub × Nat :=
  let (index, removed) := hub.index.unsubscribeMany id events
  ({ hub with index }, removed)

end Hub

end EventHub
