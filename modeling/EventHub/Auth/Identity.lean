import EventHub.Auth.Error
import EventHub.Json.Decoder
import EventHub.Json.Printer
import EventHub.NameSet

/-!
Who a client is: a subject with scopes and the clusters it may see. An identity travels between
the gateway and the hub as one JSON header value.
-/

namespace EventHub

inductive ClusterScope where
  | all
  | only (clusters : NameSet)
  deriving DecidableEq

namespace ClusterScope

def allows (scope : ClusterScope) (cluster : String) : Bool :=
  match scope with
  | all => true
  | only clusters => clusters.contains cluster

/-- Restricts a request to the scope. An empty request asks for everything the scope has; of the
clusters outside the scope the first in order is reported. -/
def narrow (scope : ClusterScope) (requested : NameSet) : Except String NameSet :=
  match scope with
  | all => .ok requested
  | only allowed =>
      if requested.isEmpty then .ok allowed
      else
        match requested.names.find? fun cluster => !allowed.contains cluster with
        | some denied => .error denied
        | none => .ok requested

def json : ClusterScope → Json
  | all => .text "all"
  | only clusters => .record [("only", .texts clusters.names)]

def ofJson? : Json → Option ClusterScope
  | .text "all" => some all
  | .object [(some "all", .null)] => some all
  | .object [(some "only", value)] => value.texts?.map fun names => only (NameSet.ofList names)
  | _ => none

end ClusterScope

structure Identity where
  subject : String
  displayName : Option String := none
  scopes : NameSet := ∅
  clusters : ClusterScope := .all
  deriving DecidableEq

namespace Identity

/-- Reading events. -/
def readScope : String := "events:read"

/-- Administration; it includes every other scope. -/
def adminScope : String := "hub:admin"

def withScope (identity : Identity) (scope : String) : Identity :=
  { identity with scopes := identity.scopes.insert scope }

def withClusters (identity : Identity) (clusters : List String) : Identity :=
  { identity with clusters := .only (NameSet.ofList clusters) }

def hasScope (identity : Identity) (scope : String) : Bool :=
  identity.scopes.contains scope || identity.scopes.contains adminScope

def requireScope (identity : Identity) (scope : String) : Except AuthError Unit :=
  if identity.hasScope scope then .ok () else .error (.missingScope scope)

def json (identity : Identity) : Json :=
  let name :=
    match identity.displayName with
    | some name => [("display_name", Json.text name)]
    | none => []
  .record
    (("subject", .text identity.subject) :: name ++
      [("scopes", .texts identity.scopes.names), ("clusters", identity.clusters.json)])

def fieldNames : List String :=
  ["subject", "display_name", "scopes", "clusters"]

def ofJson? (json : Json) : Option Identity := do
  let fields ← json.fields? fieldNames
  let subject ← fields.required? "subject" Json.text?
  let displayName ← fields.default? "display_name" (Json.optional? Json.text?) none
  let scopes ← fields.default? "scopes" Json.texts? []
  let clusters ← fields.default? "clusters" ClusterScope.ofJson? .all
  some { subject, displayName, scopes := NameSet.ofList scopes, clusters }

def toHeader (identity : Identity) : String :=
  identity.json.print

/-- A header value that is no identity at all is refused without detail. -/
def ofHeader (value : String) : Except AuthError Identity :=
  match (Json.parse? value).bind ofJson? with
  | none => .error (.invalidInput "")
  | some identity =>
      if identity.subject = "" then .error (.invalidInput "empty subject") else .ok identity

end Identity

end EventHub
