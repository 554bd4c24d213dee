import EventHub.Decimal.Double
import EventHub.Hub.Report
import EventHub.Table

/-!
Counters and gauges about requests and about the hub. A hub's metrics are what its reports add
up to; a connection's own gauges last from its first sample to its close.
-/

namespace EventHub

structure RequestLabels where
  method : String
  path : String
  status : Nat
  deriving DecidableEq

/-- Requests of one kind: how many there were, and their durations in seconds. -/
structure RequestTally where
  durations : List Decimal.Double := []
  deriving DecidableEq

structure ConnectionGauges where
  depth : Nat
  dropped : Nat
  missed : Nat
  deriving DecidableEq

structure Metrics where
  requests : Table RequestLabels RequestTally := ∅
  activeRequests : Nat := 0
  active : Int := 0
  opened : Nat := 0
  closed : Table CloseReason Nat := ∅
  eventsRouted : Nat := 0
  deliveries : Nat := 0
  dropped : Nat := 0
  misses : Nat := 0
  evictions : Nat := 0
  crossings : Table Crossing Nat := ∅
  gauges : Table ConnectionId ConnectionGauges := ∅
  deriving DecidableEq

namespace Metrics

def start : Metrics where
  opened := 0

/-- One more for a key. -/
def count {κ : Type} [DecidableEq κ] (table : Table κ Nat) (key : κ) : Table κ Nat :=
  table.insert key ((table.get? key).getD 0 + 1)

def apply (metrics : Metrics) : Report → Metrics
  | .opened _ => { metrics with opened := metrics.opened + 1, active := metrics.active + 1 }
  | .closed id reason =>
      { metrics with
        active := metrics.active - 1
        closed := count metrics.closed reason
        evictions := metrics.evictions + (if reason = .heartbeatTimeout then 1 else 0)
        gauges := metrics.gauges.erase id }
  | .routed report =>
      { metrics with
        eventsRouted := metrics.eventsRouted + 1
        deliveries := metrics.deliveries + report.delivered
        dropped := metrics.dropped + report.dropped }
  | .sampled sample =>
      { metrics with
        gauges := metrics.gauges.insert sample.id
          { depth := sample.depth, dropped := sample.dropped, missed := sample.missed } }
  | .missed _ _ => { metrics with misses := metrics.misses + 1 }
  | .crossed _ crossing => { metrics with crossings := count metrics.crossings crossing }

/-- Adds a hub's reports, latest first, to metrics that hold none yet. -/
def withReports (metrics : Metrics) (reports : List Report) : Metrics :=
  reports.foldr (fun report metrics => metrics.apply report) metrics

def ofReports (reports : List Report) : Metrics :=
  start.withReports reports

def recordRequest (metrics : Metrics) (labels : RequestLabels) (duration : Decimal.Double) :
    Metrics :=
  let tally := (metrics.requests.get? labels).getD {}
  { metrics with
    requests := metrics.requests.insert labels { durations := duration :: tally.durations } }

end Metrics

end EventHub
