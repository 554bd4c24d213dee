import EventHub.Address.Reader
import EventHub.Auth.TokenTable
import EventHub.Settings.Layer

/-!
Settings that every server has: where it listens and how it logs. Settings that can be read may
still be refused, field by field.
-/

namespace EventHub

inductive SettingsError where
  | unreadable
  | invalid (problems : List Problem)
  deriving DecidableEq

/-- Settings that have been read, unless a check refuses them. -/
def checked {α : Type} (problems : α → List Problem) (settings : Option α) :
    Except SettingsError α :=
  match settings with
  | none => .error .unreadable
  | some settings =>
      match problems settings with
      | [] => .ok settings
      | found => .error (.invalid found)

/-- A shared secret has at least this many characters. -/
def minSecretLength : Nat := 16

structure ServerSettings where
  listenAddress : SocketAddress
  logLevel : String := "info"
  jsonLogs : Bool := false
  deriving DecidableEq

namespace ServerSettings

def localhost (service : UInt16) : ServerSettings where
  listenAddress := .v4 ⟨127, 0, 0, 1⟩ service

def logLevels : List String :=
  ["trace", "debug", "info", "warn", "error"]

def fieldNames : List String :=
  ["listen_addr", "log_level", "json_logs"]

def ofFields? {α : Type} (format : Format α) (default : ServerSettings) (fields : Fields α) :
    Option ServerSettings := do
  let listenAddress ← fields.default? "listen_addr"
    (fun value => (format.text? value).bind SocketAddress.ofText?) default.listenAddress
  let logLevel ← fields.default? "log_level" format.text? default.logLevel
  let jsonLogs ← fields.default? "json_logs" format.bool? default.jsonLogs
  some { listenAddress, logLevel, jsonLogs }

def decode? {α : Type} (format : Format α) (default : ServerSettings) (value : α) :
    Option ServerSettings :=
  (format.fields? fieldNames value).bind (ofFields? format default)

def members (settings : ServerSettings) : List (String × Json) :=
  [("listen_addr", .text settings.listenAddress.text), ("log_level", .text settings.logLevel),
    ("json_logs", .bool settings.jsonLogs)]

/-- A log level may be spelled in any case. -/
def problems (settings : ServerSettings) : List Problem :=
  Problem.check (logLevels.contains (Text.lowerString settings.logLevel)) "log_level" "log_level"

end ServerSettings

end EventHub
