import EventHub.Settings.Hub

/-! The settings of a node. -/

namespace EventHub

structure NodeAuthSettings where
  /-- The secret by which a gateway is known; without one no forwarded identity is believed. -/
  trustedProxySecret : Option String := none
  allowQueryToken : Bool := false
  tokens : List TokenEntry := []
  deriving DecidableEq

namespace NodeAuthSettings

def fieldNames : List String :=
  ["trusted_proxy_secret", "allow_query_token", "tokens"]

def decode? {α : Type} (format : Format α) (value : α) : Option NodeAuthSettings := do
  let fields ← format.fields? fieldNames value
  let trustedProxySecret ← fields.default? "trusted_proxy_secret"
    (format.optional? format.text?) none
  let allowQueryToken ← fields.default? "allow_query_token" format.bool? false
  let tokens ← fields.default? "tokens" (format.itemsOf? (TokenEntry.decode? format)) []
  some { trustedProxySecret, allowQueryToken, tokens }

def json (settings : NodeAuthSettings) : Json :=
  .record
    [("trusted_proxy_secret", match settings.trustedProxySecret with
        | some secret => .text secret
        | none => .null),
      ("allow_query_token", .bool settings.allowQueryToken),
      ("tokens", .array (settings.tokens.map TokenEntry.json))]

def problems (settings : NodeAuthSettings) : List Problem :=
  Problem.check (settings.trustedProxySecret.all fun secret => minSecretLength ≤ secret.length)
      "trusted_proxy_secret" "length" ++
    Problem.ofItems "tokens" TokenEntry.problems settings.tokens

end NodeAuthSettings

structure NodeSettings where
  server : ServerSettings := .localhost 8080
  hub : HubSettings := {}
  auth : NodeAuthSettings := {}
  deriving DecidableEq

namespace NodeSettings

def decode? {α : Type} (format : Format α) (value : α) : Option NodeSettings := do
  let fields ← format.fields? ["server", "hub", "auth"] value
  let default : NodeSettings := {}
  let server ← fields.default? "server" (ServerSettings.decode? format default.server)
    default.server
  let hub ← fields.default? "hub" (HubSettings.decode? format) default.hub
  let auth ← fields.default? "auth" (NodeAuthSettings.decode? format) default.auth
  some { server, hub, auth }

def json (settings : NodeSettings) : Json :=
  .record
    [("server", .record settings.server.members), ("hub", settings.hub.json),
      ("auth", settings.auth.json)]

def ofJsonText? (text : String) : Option NodeSettings :=
  (Json.parse? text).bind (decode? Json.format)

def problems (settings : NodeSettings) : List Problem :=
  settings.server.problems.map (Problem.inside "server") ++
    settings.hub.problems.map (Problem.inside "hub") ++
    settings.auth.problems.map (Problem.inside "auth")

/-- Environment variables for a node start like this. -/
def variableStart : String := "PULSE_"

def load (sources : SettingSources) : Except SettingsError NodeSettings :=
  checked problems ((sources.gather? variableStart).bind (decode? Setting.format))

def tokenTable (settings : NodeSettings) : Except AuthError TokenTable :=
  TokenTable.ofEntries settings.auth.tokens

end NodeSettings

end EventHub
