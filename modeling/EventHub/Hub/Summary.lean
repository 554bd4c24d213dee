import EventHub.Hub.Basic
import EventHub.Text.Quoted

/-! One-line texts about the hub's state and its reports, for logs and for debugging. -/

namespace EventHub

/-- The word for a state in a summary. -/
def ConnectionState.label : ConnectionState → String
  | connecting => "Connecting"
  | active => "Active"
  | paused => "Paused"
  | draining => "Draining"
  | closed => "Closed"

namespace Connection

def summary (connection : Connection) : String :=
  "Connection \x7b id: " ++ Text.quoted connection.id ++ ", subject: " ++
    Text.quoted connection.identity.subject ++ ", protocol_version: " ++
    toString connection.protocolVersion.toNat ++ ", state: " ++ connection.state.label ++ " \x7d"

/-- The summary of a connection that there may not be. -/
def summary? : Option Connection → String
  | some connection => "Some(" ++ connection.summary ++ ")"
  | none => "None"

end Connection

def Hub.summary (hub : Hub) : String :=
  "ConnectionRegistry \x7b connections: " ++ toString hub.count ++ ", subscriptions: " ++
    toString hub.index.size ++ " \x7d"

def RouteReport.summary (report : RouteReport) : String :=
  "matched=" ++ toString report.matched ++ " delivered=" ++ toString report.delivered ++
    " dropped=" ++ toString report.dropped ++ " skipped=" ++ toString report.skipped

def ConnectionSample.summary (sample : ConnectionSample) : String :=
  sample.id ++ " " ++ sample.state.text ++ " depth=" ++ toString sample.depth ++
    " dropped=" ++ toString sample.dropped ++ " missed=" ++ toString sample.missed

def Report.summary : Report → String
  | .opened id => "opened " ++ id
  | .closed id reason => "closed " ++ id ++ " " ++ reason.text
  | .routed report => "routed " ++ report.summary
  | .sampled sample => "sampled " ++ sample.summary
  | .missed id count => "missed " ++ id ++ " " ++ toString count
  | .crossed id crossing => "watermark " ++ id ++ " " ++ crossing.text

end EventHub
