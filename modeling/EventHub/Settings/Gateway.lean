import EventHub.Settings.Server

/-! The settings of a gateway. -/

namespace EventHub

structure GatewayServerSettings where
  server : ServerSettings := .localhost 8081
  /-- How long, in milliseconds, a shutdown waits for relays to end. -/
  shutdownGrace : UInt64 := 5000
  deriving DecidableEq

namespace GatewayServerSettings

def decode? {α : Type} (format : Format α) (value : α) : Option GatewayServerSettings := do
  let default : GatewayServerSettings := {}
  let fields ← format.fields? (ServerSettings.fieldNames ++ ["shutdown_grace_ms"]) value
  let server ← ServerSettings.ofFields? format default.server fields
  let shutdownGrace ← fields.default? "shutdown_grace_ms" format.natural? default.shutdownGrace
  some { server, shutdownGrace }

def json (settings : GatewayServerSettings) : Json :=
  .record (settings.server.members ++ [("shutdown_grace_ms", .natural settings.shutdownGrace)])

def problems (settings : GatewayServerSettings) : List Problem :=
  settings.server.problems ++
    Problem.check (settings.shutdownGrace ≠ 0) "shutdown_grace_ms" "range"

end GatewayServerSettings

structure HubLinkSettings where
  url : String := "ws://127.0.0.1:8080/ws"
  proxySecret : String := ""
  /-- In milliseconds. -/
  connectTimeout : UInt64 := 5000
  deriving DecidableEq

namespace HubLinkSettings

def decode? {α : Type} (format : Format α) (value : α) : Option HubLinkSettings := do
  let default : HubLinkSettings := {}
  let fields ← format.fields? ["url", "proxy_secret", "connect_timeout_ms"] value
  let url ← fields.default? "url" format.text? default.url
  let proxySecret ← fields.default? "proxy_secret" format.text? default.proxySecret
  let connectTimeout ← fields.default? "connect_timeout_ms" format.natural? default.connectTimeout
  some { url, proxySecret, connectTimeout }

def json (settings : HubLinkSettings) : Json :=
  .record
    [("url", .text settings.url), ("proxy_secret", .text settings.proxySecret),
      ("connect_timeout_ms", .natural settings.connectTimeout)]

/-- A URL of the WebSocket schemes after its scheme. -/
def afterScheme? : List Char → Option (List Char)
  | 'w' :: 's' :: ':' :: '/' :: '/' :: rest => some rest
  | 'w' :: 's' :: 's' :: ':' :: '/' :: '/' :: rest => some rest
  | _ => none

/-- A URL is checked for its scheme and for the start of a host. -/
def urlProblems (url : String) : List Problem :=
  match afterScheme? url.toList with
  | none => [{ path := "url", code := "ws_scheme" }]
  | some [] | some ('/' :: _) => [{ path := "url", code := "ws_host" }]
  | some _ => []

def problems (settings : HubLinkSettings) : List Problem :=
  urlProblems settings.url ++
    Problem.check (minSecretLength ≤ settings.proxySecret.length) "proxy_secret" "length" ++
    Problem.check (settings.connectTimeout ≠ 0) "connect_timeout_ms" "range"

end HubLinkSettings

structure GatewayAuthSettings where
  allowQueryToken : Bool := false
  tokens : List TokenEntry := []
  deriving DecidableEq

namespace GatewayAuthSettings

def decode? {α : Type} (format : Format α) (value : α) : Option GatewayAuthSettings := do
  let fields ← format.fields? ["allow_query_token", "tokens"] value
  let allowQueryToken ← fields.default? "allow_query_token" format.bool? false
  let tokens ← fields.default? "tokens" (format.itemsOf? (TokenEntry.decode? format)) []
  some { allowQueryToken, tokens }

def json (settings : GatewayAuthSettings) : Json :=
  .record
    [("allow_query_token", .bool settings.allowQueryToken),
      ("tokens", .array (settings.tokens.map TokenEntry.json))]

def problems (settings : GatewayAuthSettings) : List Problem :=
  Problem.ofItems "tokens" TokenEntry.problems settings.tokens

end GatewayAuthSettings

structure GatewaySettings where
  server : GatewayServerSettings := {}
  hubLink : HubLinkSettings := {}
  auth : GatewayAuthSettings := {}
  deriving DecidableEq

namespace GatewaySettings

def decode? {α : Type} (format : Format α) (value : α) : Option GatewaySettings := do
  let fields ← format.fields? ["server", "upstream", "auth"] value
  let server ← fields.default? "server" (GatewayServerSettings.decode? format) {}
  let hubLink ← fields.default? "upstream" (HubLinkSettings.decode? format) {}
  let auth ← fields.default? "auth" (GatewayAuthSettings.decode? format) {}
  some { server, hubLink, auth }

def json (settings : GatewaySettings) : Json :=
  .record
    [("server", settings.server.json), ("upstream", settings.hubLink.json),
      ("auth", settings.auth.json)]

def ofJsonText? (text : String) : Option GatewaySettings :=
  (Json.parse? text).bind (decode? Json.format)

def problems (settings : GatewaySettings) : List Problem :=
  settings.server.problems.map (Problem.inside "server") ++
    settings.hubLink.problems.map (Problem.inside "upstream") ++
    settings.auth.problems.map (Problem.inside "auth")

/-- Environment variables for a gateway start like this. -/
def variableStart : String := "PULSE_GATEWAY_"

def load (sources : SettingSources) : Except SettingsError GatewaySettings :=
  checked problems ((sources.gather? variableStart).bind (decode? Setting.format))

def tokenTable (settings : GatewaySettings) : Except AuthError TokenTable :=
  TokenTable.ofEntries settings.auth.tokens

end GatewaySettings

end EventHub
