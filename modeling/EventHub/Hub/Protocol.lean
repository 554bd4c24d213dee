import EventHub.Hub.Error
import EventHub.Hub.Event

/-!
The control protocol between client and hub: tagged JSON values in text frames. Commands go to
the hub, messages to the client.
-/

namespace EventHub

inductive ClientCommand where
  | pong
  | subscribe (events : List EventType) (clusters : List String)
  | unsubscribe (events : List EventType)
  deriving DecidableEq

namespace ClientCommand

def json : ClientCommand → Json
  | pong => .record [("type", .text "pong")]
  | subscribe events clusters =>
      .record
        [("type", .text "subscribe"), ("events", .texts events), ("clusters", .texts clusters)]
  | unsubscribe events => .record [("type", .text "unsubscribe"), ("events", .texts events)]

def print (command : ClientCommand) : String :=
  command.json.print

def ofJson? (json : Json) : Option ClientCommand := do
  let (tag, content) ← json.tagged?
  match tag with
  | "pong" => content.ignored?.map fun _ => pong
  | "subscribe" =>
      let fields ← content.fields? ["events", "clusters"]
      let events ← fields.required? "events" Json.texts?
      let clusters ← fields.default? "clusters" Json.texts? []
      some (subscribe events clusters)
  | "unsubscribe" =>
      let fields ← content.fields? ["events"]
      (fields.required? "events" Json.texts?).map unsubscribe
  | _ => none

def parse (text : String) : Except HubError ClientCommand :=
  match (Json.parse? text).bind ofJson? with
  | some command => .ok command
  | none => .error (.malformedControlMessage "")

end ClientCommand

inductive ServerMessage where
  | welcome (connection : ConnectionId) (version : UInt32)
  | ping (timestamp : UInt64)
  | subscribed (events : List EventType) (clusters : List String)
  | unsubscribed (events : List EventType)
  | error (code message : String)
  deriving DecidableEq

namespace ServerMessage

def ofError (cause : HubError) : ServerMessage :=
  error cause.code cause.message

def json : ServerMessage → Json
  | welcome connection version =>
      .record
        [("type", .text "welcome"), ("connection_id", .text connection),
          ("protocol_version", .natural version.toUInt64)]
  | ping timestamp => .record [("type", .text "ping"), ("timestamp", .natural timestamp)]
  | subscribed events clusters =>
      .record
        [("type", .text "subscribed"), ("events", .texts events), ("clusters", .texts clusters)]
  | unsubscribed events => .record [("type", .text "unsubscribed"), ("events", .texts events)]
  | error code message =>
      .record [("type", .text "error"), ("code", .text code), ("message", .text message)]

def toPayload (message : ServerMessage) : Payload :=
  message.json.print

def ofJson? (json : Json) : Option ServerMessage := do
  let (tag, content) ← json.tagged?
  match tag with
  | "welcome" =>
      let fields ← content.fields? ["connection_id", "protocol_version"]
      let connection ← fields.required? "connection_id" Json.text?
      let version ← fields.required? "protocol_version" Json.natural32?
      some (welcome connection version)
  | "ping" =>
      let fields ← content.fields? ["timestamp"]
      (fields.required? "timestamp" Json.natural?).map ping
  | "subscribed" =>
      let fields ← content.fields? ["events", "clusters"]
      let events ← fields.required? "events" Json.texts?
      let clusters ← fields.required? "clusters" Json.texts?
      some (subscribed events clusters)
  | "unsubscribed" =>
      let fields ← content.fields? ["events"]
      (fields.required? "events" Json.texts?).map unsubscribed
  | "error" =>
      let fields ← content.fields? ["code", "message"]
      let code ← fields.required? "code" Json.text?
      let message ← fields.required? "message" Json.text?
      some (error code message)
  | _ => none

def ofPayload? (text : String) : Option ServerMessage :=
  (Json.parse? text).bind ofJson?

end ServerMessage

end EventHub
