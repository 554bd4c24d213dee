import EventHub.Hub.Ingest
import EventHub.Http.MediaType
import EventHub.Json.Decoder
import EventHub.Node.Error

/-!
Submitting events over HTTP. A body holds one event or a list of them; it is accepted as far as
the ingest queue has room, but never in part when an event is malformed.
-/

namespace EventHub

structure EventInput where
  eventType : EventType
  cluster : String
  payload : Json
  producedAt : Option UInt64

namespace EventInput

def fieldNames : List String :=
  ["event_type", "cluster_id", "payload", "produced_at"]

/-- An event written as an array has to give all four fields. -/
def complete (json : Json) : Bool :=
  match json with
  | .array items => items.length == fieldNames.length
  | _ => true

def ofJson? (json : Json) : Option EventInput := do
  let fields ← json.fields? fieldNames
  let eventType ← fields.required? "event_type" Json.text?
  let cluster ← fields.required? "cluster_id" Json.text?
  let payload ← fields.default? "payload" (fun json => some json.canonical) .null
  let producedAt ← fields.default? "produced_at" (Json.optional? Json.natural?) none
  if complete json then some { eventType, cluster, payload, producedAt } else none

/-- The event, stamped with `now` unless its producer gave a time. -/
def toEvent (now : UInt64) (input : EventInput) : Except ApiError Event :=
  if input.eventType = "" then .error (.badRequest "event_type cannot be empty")
  else if input.cluster = "" then .error (.badRequest "cluster_id cannot be empty")
  else
    .ok
      { eventType := input.eventType
        cluster := input.cluster
        payload := input.payload
        producedAt := input.producedAt.getD now }

def listOfJson? (json : Json) : Option (List EventInput) :=
  match json.items?.bind fun items => items.mapM ofJson? with
  | some inputs => some inputs
  | none => (ofJson? json).map fun input => [input]

end EventInput

inductive BodyProblem where
  | contentType
  | length
  | malformed
  | shape
  deriving DecidableEq

namespace BodyProblem

def response : BodyProblem → Http.Response
  | contentType => .refusal 415 "Expected request with `Content-Type: application/json`"
  | length => .refusal 413 "Failed to buffer the request body: length limit exceeded"
  | malformed => .refusal 400 "Failed to parse the request body as JSON"
  | shape => .refusal 422 "Failed to deserialize the JSON body into the target type"

end BodyProblem

namespace Ingest

def bodyLimit : Nat := 2097152

def decodeBody (body : String) : Except BodyProblem (List EventInput) :=
  match Json.read? body.toList with
  | none => .error .malformed
  | some (json, rest) =>
      if !json.readable Json.depthLimit then .error .malformed
      else
        match EventInput.listOfJson? json with
        | none => .error .shape
        | some inputs => if Json.Token.skipSpace rest = [] then .ok inputs else .error .malformed

def readBody (request : Http.Request) : Except BodyProblem (List EventInput) :=
  if !(request.header? "content-type").any (fun value => Http.announcesJson value.toList) then
    .error .contentType
  else if bodyLimit < request.body.utf8ByteSize then .error .length
  else decodeBody request.body

/-- Puts events into the queue one by one; counts them up to the first that is refused. -/
def publishAll (queue : IngestQueue) (count : Nat) :
    List Event → IngestQueue × Nat × Option HubError
  | [] => (queue, count, none)
  | event :: rest =>
      match queue.publish event with
      | .ok next => publishAll next (count + 1) rest
      | .error cause => (queue, count, some cause)

/-- How many events of a batch were accepted and how many were not. -/
structure Receipt where
  accepted : Nat
  rejected : Nat
  deriving DecidableEq

def Receipt.json (receipt : Receipt) : Json :=
  .record
    [("accepted", .natural (UInt64.ofNat receipt.accepted)),
      ("rejected", .natural (UInt64.ofNat receipt.rejected))]

/-- Takes a batch in; a full queue is an error only for a batch that it shuts out as a whole. -/
def submit (queue : IngestQueue) (now : UInt64) (inputs : List EventInput) :
    IngestQueue × Except ApiError Receipt :=
  if inputs.isEmpty then (queue, .error (.badRequest "no events submitted"))
  else
    match inputs.mapM (EventInput.toEvent now) with
    | .error problem => (queue, .error problem)
    | .ok events =>
        match publishAll queue 0 events with
        | (next, accepted, none) =>
            (next, .ok { accepted, rejected := events.length - accepted })
        | (next, accepted, some cause) =>
            if cause = .ingestFull ∧ 0 < accepted then
              (next, .ok { accepted, rejected := events.length - accepted })
            else (next, .error (.hub cause))

end Ingest

end EventHub
