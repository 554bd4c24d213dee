import EventHub.Json.Decoder
import EventHub.Json.Printer

/-!
Events. A producer's payload is any JSON value; it is kept in canonical form and handed to
clients inside an envelope tagged `event`.
-/

namespace EventHub

abbrev EventType := String

abbrev Payload := String

structure Event where
  eventType : EventType
  cluster : String
  payload : Json
  producedAt : UInt64

namespace Event

def envelope (event : Event) : Json :=
  .record
    [("type", .text "event"), ("event_type", .text event.eventType),
      ("cluster_id", .text event.cluster), ("payload", event.payload),
      ("produced_at", .natural event.producedAt)]

/-- The text that clients receive. -/
def toPayload (event : Event) : Payload :=
  event.envelope.print

def fieldNames : List String :=
  ["event_type", "cluster_id", "payload", "produced_at"]

def ofJson? (json : Json) : Option Event := do
  let fields ← json.fields? fieldNames
  let eventType ← fields.required? "event_type" Json.text?
  let cluster ← fields.required? "cluster_id" Json.text?
  let payload ← fields.required? "payload" Json.payload?
  let producedAt ← fields.required? "produced_at" Json.natural?
  some { eventType, cluster, payload, producedAt }

end Event

end EventHub
