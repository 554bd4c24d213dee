import EventHub.Hub.Config
import EventHub.Settings.Server

/-! The tunables of a hub in a node's settings. -/

namespace EventHub

structure HubSettings where
  maxConnections : UInt64 := 10000
  maxSubscriptions : UInt64 := 100
  bufferCapacity : UInt64 := 1000
  highWatermark : Decimal.Double := ({} : BufferConfig).highWatermark
  lowWatermark : Decimal.Double := ({} : BufferConfig).lowWatermark
  heartbeatSeconds : UInt64 := 30
  pongTimeoutSeconds : UInt64 := 10
  maxMissedPongs : UInt32 := 3
  idlePoll : UInt64 := 25
  drainTimeout : UInt64 := 1000
  teardownGrace : UInt64 := 5000
  controlQueue : UInt64 := 32
  ingestCapacity : UInt64 := 4096
  deriving DecidableEq

namespace HubSettings

def hubConfig (settings : HubSettings) : HubConfig where
  maxConnections := settings.maxConnections.toNat
  maxSubscriptions := settings.maxSubscriptions.toNat
  buffer :=
    { capacity := settings.bufferCapacity.toNat
      highWatermark := settings.highWatermark
      lowWatermark := settings.lowWatermark }
  heartbeat :=
    { interval := settings.heartbeatSeconds.toNat * 1000
      pongTimeout := settings.pongTimeoutSeconds.toNat * 1000
      maxMissedPongs := settings.maxMissedPongs }
  idlePoll := settings.idlePoll.toNat
  drainTimeout := settings.drainTimeout.toNat
  teardownGrace := settings.teardownGrace.toNat
  controlQueue := settings.controlQueue.toNat
  ingestCapacity := settings.ingestCapacity.toNat

def fieldNames : List String :=
  ["max_connections", "max_subscriptions_per_connection", "buffer_capacity", "high_watermark",
    "low_watermark", "heartbeat_interval_secs", "pong_timeout_secs", "max_missed_pongs",
    "idle_poll_interval_ms", "drain_timeout_ms", "teardown_grace_ms", "control_queue_capacity",
    "ingest_capacity"]

def decode? {α : Type} (format : Format α) (value : α) : Option HubSettings := do
  let fields ← format.fields? fieldNames value
  let default : HubSettings := {}
  let natural (name : String) (default : UInt64) := fields.default? name format.natural? default
  let maxConnections ← natural "max_connections" default.maxConnections
  let maxSubscriptions ← natural "max_subscriptions_per_connection" default.maxSubscriptions
  let bufferCapacity ← natural "buffer_capacity" default.bufferCapacity
  let highWatermark ← fields.default? "high_watermark" format.double? default.highWatermark
  let lowWatermark ← fields.default? "low_watermark" format.double? default.lowWatermark
  let heartbeatSeconds ← natural "heartbeat_interval_secs" default.heartbeatSeconds
  let pongTimeoutSeconds ← natural "pong_timeout_secs" default.pongTimeoutSeconds
  let maxMissedPongs ← fields.default? "max_missed_pongs" format.natural32? default.maxMissedPongs
  let idlePoll ← natural "idle_poll_interval_ms" default.idlePoll
  let drainTimeout ← natural "drain_timeout_ms" default.drainTimeout
  let teardownGrace ← natural "teardown_grace_ms" default.teardownGrace
  let controlQueue ← natural "control_queue_capacity" default.controlQueue
  let ingestCapacity ← natural "ingest_capacity" default.ingestCapacity
  some
    { maxConnections, maxSubscriptions, bufferCapacity, highWatermark, lowWatermark,
      heartbeatSeconds, pongTimeoutSeconds, maxMissedPongs, idlePoll, drainTimeout, teardownGrace,
      controlQueue, ingestCapacity }

def json (settings : HubSettings) : Json :=
  .record
    [("max_connections", .natural settings.maxConnections),
      ("max_subscriptions_per_connection", .natural settings.maxSubscriptions),
      ("buffer_capacity", .natural settings.bufferCapacity),
      ("high_watermark", .number (.double settings.highWatermark)),
      ("low_watermark", .number (.double settings.lowWatermark)),
      ("heartbeat_interval_secs", .natural settings.heartbeatSeconds),
      ("pong_timeout_secs", .natural settings.pongTimeoutSeconds),
      ("max_missed_pongs", .natural settings.maxMissedPongs.toUInt64),
      ("idle_poll_interval_ms", .natural settings.idlePoll),
      ("drain_timeout_ms", .natural settings.drainTimeout),
      ("teardown_grace_ms", .natural settings.teardownGrace),
      ("control_queue_capacity", .natural settings.controlQueue),
      ("ingest_capacity", .natural settings.ingestCapacity)]

/-- A hub that pauses nobody, or never resumes, is refused. -/
def fieldProblems (settings : HubSettings) : List Problem :=
  let high := settings.highWatermark.toFloat
  let low := settings.lowWatermark.toFloat
  let positive (value : UInt64) (name : String) := Problem.check (value ≠ 0) name "range"
  positive settings.maxConnections "max_connections" ++
    positive settings.maxSubscriptions "max_subscriptions_per_connection" ++
    positive settings.bufferCapacity "buffer_capacity" ++
    Problem.check (0 < high && high ≤ 1) "high_watermark" "range" ++
    Problem.check (0 ≤ low && low < 1) "low_watermark" "range" ++
    positive settings.heartbeatSeconds "heartbeat_interval_secs" ++
    positive settings.pongTimeoutSeconds "pong_timeout_secs" ++
    positive settings.maxMissedPongs.toUInt64 "max_missed_pongs" ++
    positive settings.idlePoll "idle_poll_interval_ms" ++
    positive settings.controlQueue "control_queue_capacity" ++
    positive settings.ingestCapacity "ingest_capacity"

/-- The order of the watermarks is looked at only when every field has passed. -/
def problems (settings : HubSettings) : List Problem :=
  match settings.fieldProblems with
  | [] =>
      Problem.check (settings.lowWatermark.toFloat < settings.highWatermark.toFloat) Problem.whole
        "low_watermark_not_below_high"
  | found => found

end HubSettings

end EventHub
