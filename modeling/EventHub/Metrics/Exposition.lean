import EventHub.Decimal.Grisu
import EventHub.Decimal.Style
import EventHub.Metrics.Basic

/-!
The text form of metrics for scraping: families of samples, each family under a line of help and
a line with its kind. A family without samples is left out. Label values stand as they are.
-/

namespace EventHub

structure MetricSample where
  suffix : String
  labels : List (String × String)
  value : String

structure MetricFamily where
  name : String
  help : String
  kind : String
  samples : List MetricSample

namespace MetricSample

def line (name : String) (sample : MetricSample) : String :=
  let labels := sample.labels.map fun (label, value) => label ++ "=\"" ++ value ++ "\""
  let block := if labels.isEmpty then "" else "\x7b" ++ ",".intercalate labels ++ "\x7d"
  name ++ sample.suffix ++ block ++ " " ++ sample.value

end MetricSample

namespace MetricFamily

def lines (family : MetricFamily) : List String :=
  if family.samples.isEmpty then []
  else
    ("# HELP " ++ family.name ++ " " ++ family.help ++ ".") ::
      ("# TYPE " ++ family.name ++ " " ++ family.kind) ::
        family.samples.map fun sample => sample.line family.name

def counters (name help : String) (entries : List (List (String × String) × Nat)) :
    MetricFamily where
  name := name
  help := help
  kind := "counter"
  samples := entries.map fun (labels, value) =>
    { suffix := "_total", labels, value := toString value }

def counter (name help : String) (value : Nat) : MetricFamily :=
  counters name help [([], value)]

def gauges (name help : String) (entries : List (List (String × String) × Int)) :
    MetricFamily where
  name := name
  help := help
  kind := "gauge"
  samples := entries.map fun (labels, value) => { suffix := "", labels, value := toString value }

end MetricFamily

namespace RequestTally

/-- Positional from `0.00001` up to twenty-one digits. -/
def secondsStyle : Decimal.Style where
  decimal := Decimal.grisu
  positionalFrom := some (-6)
  positionalBelow := some 21
  marksIntegral := true
  signsExponent := false

def secondsText (seconds : Decimal.Double) : String :=
  secondsStyle.text seconds

/-- Upper bounds of the duration buckets, each twice the one before. -/
def bounds : List Decimal.Double :=
  (List.range 16).map fun step => .ofFloat (0.001 * (UInt64.ofNat (Nat.pow 2 step)).toFloat)

def size (tally : RequestTally) : Nat :=
  tally.durations.length

/-- The durations added in the order they came. -/
def total (tally : RequestTally) : Decimal.Double :=
  .ofFloat (tally.durations.foldr (fun duration sum => sum + duration.toFloat) 0)

def atMost (tally : RequestTally) (bound : Decimal.Double) : Nat :=
  tally.durations.countP fun duration => duration.toFloat ≤ bound.toFloat

def samples (labels : List (String × String)) (tally : RequestTally) : List MetricSample :=
  [{ suffix := "_sum", labels, value := secondsText tally.total },
    { suffix := "_count", labels, value := toString tally.size }] ++
    bounds.map (fun bound =>
      { suffix := "_bucket", labels := ("le", secondsText bound) :: labels
        value := toString (tally.atMost bound) }) ++
    [{ suffix := "_bucket", labels := ("le", "+Inf") :: labels, value := toString tally.size }]

end RequestTally

namespace Metrics

def requestLabels (labels : RequestLabels) : List (String × String) :=
  [("method", labels.method), ("path", labels.path), ("status", toString labels.status)]

def crossingLabel : Crossing → String
  | .paused => "Paused"
  | .resumed => "Resumed"

def connectionGauges (metrics : Metrics) (value : ConnectionGauges → Nat) :
    List (List (String × String) × Int) :=
  metrics.gauges.entries.map fun (id, gauges) => ([("connection_id", id)], (value gauges : Int))

def families (metrics : Metrics) : List MetricFamily :=
  [.counters "pulse_http_requests" "Total HTTP requests"
      (metrics.requests.entries.map fun (labels, tally) => (requestLabels labels, tally.size)),
    { name := "pulse_http_request_duration_seconds"
      help := "HTTP request duration in seconds"
      kind := "histogram"
      samples := metrics.requests.entries.flatMap fun (labels, tally) =>
        RequestTally.samples (requestLabels labels) tally },
    .gauges "pulse_http_active_requests" "HTTP requests in flight"
      [([], (metrics.activeRequests : Int))],
    .gauges "pulse_connections_active" "Live WebSocket connections" [([], metrics.active)],
    .counter "pulse_connections" "Connections registered since start" metrics.opened,
    .counters "pulse_connections_closed" "Connections closed by reason"
      (metrics.closed.entries.map fun (reason, count) => ([("reason", reason.text)], count)),
    .counter "pulse_events_routed" "Events routed" metrics.eventsRouted,
    .counter "pulse_event_deliveries" "Payloads enqueued into connection buffers"
      metrics.deliveries,
    .counter "pulse_messages_dropped" "Payloads discarded by drop-oldest backpressure"
      metrics.dropped,
    .counter "pulse_heartbeat_misses" "Pings left unanswered past the pong timeout"
      metrics.misses,
    .counter "pulse_heartbeat_evictions" "Connections evicted by the heartbeat monitor"
      metrics.evictions,
    .counters "pulse_watermark_transitions" "Buffer watermark crossings"
      (metrics.crossings.entries.map fun (crossing, count) =>
        ([("direction", crossingLabel crossing)], count)),
    .gauges "pulse_connection_buffer_depth" "Queued payloads per connection"
      (metrics.connectionGauges ConnectionGauges.depth),
    .gauges "pulse_connection_dropped" "Dropped payloads per connection"
      (metrics.connectionGauges ConnectionGauges.dropped),
    .gauges "pulse_connection_missed_pongs" "Consecutive missed pongs per connection"
      (metrics.connectionGauges ConnectionGauges.missed)]

def text (metrics : Metrics) : String :=
  String.join ((metrics.families.flatMap MetricFamily.lines).map fun line => line ++ "\n") ++
    "# EOF\n"

end Metrics

end EventHub
