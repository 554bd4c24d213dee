import EventHub.Hub.Report
import EventHub.Hub.Subscription

/-!
The hub's state: every connection it ever took in, the ids that are registered now, the
subscription index and the running totals. What it reports to the metrics sink is kept as a log,
latest first.
-/

namespace EventHub

structure HubTotals where
  connections : Nat := 0
  subscriptions : Nat := 0
  events : Nat := 0
  delivered : Nat := 0
  dropped : Nat := 0
  evictions : Nat := 0
  deriving DecidableEq

structure Hub where
  config : HubConfig
  connections : Table ConnectionId Connection := ∅
  registered : List ConnectionId := []
  index : SubscriptionIndex := SubscriptionIndex.empty
  totals : HubTotals := {}
  reports : List Report := []
  deriving DecidableEq

namespace Hub

def ofConfig (config : HubConfig) : Hub where
  config := config

/-- A connection that the hub ever took in. -/
def get? (hub : Hub) (id : ConnectionId) : Option Connection :=
  hub.connections.get? id

def isRegistered (hub : Hub) (id : ConnectionId) : Bool :=
  hub.registered.contains id

def find? (hub : Hub) (id : ConnectionId) : Option Connection :=
  if hub.isRegistered id then hub.get? id else none

def live (hub : Hub) : List Connection :=
  hub.registered.filterMap hub.get?

def count (hub : Hub) : Nat :=
  hub.registered.length

def modify (hub : Hub) (id : ConnectionId) (change : Connection → Connection) : Hub :=
  { hub with connections := hub.connections.update id change }

def put (hub : Hub) (connection : Connection) : Hub :=
  hub.modify connection.id fun _ => connection

def report (hub : Hub) (entry : Report) : Hub :=
  { hub with reports := entry :: hub.reports }

def reportCrossing (hub : Hub) (id : ConnectionId) : Option Crossing → Hub
  | some crossing => hub.report (.crossed id crossing)
  | none => hub

def isOpen (hub : Hub) (id : ConnectionId) : Bool :=
  (hub.get? id).any Connection.isOpen

/-- Takes in a client under a fresh id while there is room. -/
def register (hub : Hub) (id : ConnectionId) (identity : Identity) (version : UInt32) :
    Except HubError Hub :=
  if hub.config.maxConnections ≤ hub.count then
    .error (.capacityExceeded hub.config.maxConnections)
  else
    .ok (report
      { hub with
        connections := hub.connections.insert id (.create hub.config id identity version)
        registered := hub.registered ++ [id]
        totals := { hub.totals with connections := hub.totals.connections + 1 } }
      (.opened id))

end Hub

/-- The statistics that are served. -/
structure HubStatistics where
  currentConnections : Nat
  currentSubscriptions : Nat
  totals : HubTotals
  deriving DecidableEq

def Hub.statistics (hub : Hub) : HubStatistics where
  currentConnections := hub.count
  currentSubscriptions := hub.index.size
  totals := hub.totals

namespace HubStatistics

def json (statistics : HubStatistics) : Json :=
  let number (value : Nat) : Json := .natural (UInt64.ofNat value)
  .record
    [("current_connections", number statistics.currentConnections),
      ("current_subscriptions", number statistics.currentSubscriptions),
      ("total_connections", number statistics.totals.connections),
      ("total_subscriptions", number statistics.totals.subscriptions),
      ("total_events", number statistics.totals.events),
      ("total_delivered", number statistics.totals.delivered),
      ("total_dropped", number statistics.totals.dropped),
      ("heartbeat_evictions", number statistics.totals.evictions)]

end HubStatistics

end EventHub
