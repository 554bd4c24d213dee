import EventHub.Hub.Basic

/-!
Fan-out of one event to every connection that wants it. No connection can hold up another: an
enqueue never waits, and a connection that is closing is skipped.
-/

namespace EventHub.Hub

/-- Hands a payload to one matched connection. -/
def deliver (payload : Payload) (state : Hub × RouteReport) (id : ConnectionId) :
    Hub × RouteReport :=
  let (hub, report) := state
  match (hub.find? id).bind fun connection => connection.enqueue? payload with
  | some (connection, outcome) =>
      ((hub.put connection).reportCrossing id outcome.crossing,
        { report with
          delivered := report.delivered + 1
          dropped := report.dropped + (if outcome.accepted then 0 else 1) })
  | none => (hub, { report with skipped := report.skipped + 1 })

def countRouted (hub : Hub) (report : RouteReport) : Hub :=
  Hub.report
    { hub with
      totals :=
        { hub.totals with
          events := hub.totals.events + 1
          delivered := hub.totals.delivered + report.delivered
          dropped := hub.totals.dropped + report.dropped } }
    (.routed report)

def route (hub : Hub) (event : Event) : Hub × RouteReport :=
  let targets := hub.index.matching event.eventType event.cluster
  let (next, report) :=
    targets.foldl (deliver event.toPayload) (hub, { matched := targets.length })
  (next.countRouted report, report)

end EventHub.Hub
