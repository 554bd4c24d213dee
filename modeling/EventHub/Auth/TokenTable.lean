import EventHub.Auth.Credential
import EventHub.Auth.Identity
import EventHub.Problem
import EventHub.Table

/-!
Static bearer tokens. The table holds digests, not tokens; an entry may expire. Entries come from
the configuration, where a token's clusters may be left empty to mean all of them.
-/

namespace EventHub

structure TokenEntry where
  token : String
  subject : String
  scopes : List String := []
  clusters : List String := []
  expiresAt : Option UInt64 := none
  deriving DecidableEq

namespace TokenEntry

def identity (entry : TokenEntry) : Identity :=
  let identity := entry.scopes.foldl Identity.withScope { subject := entry.subject }
  if entry.clusters.isEmpty then identity else identity.withClusters entry.clusters

def json (entry : TokenEntry) : Json :=
  .record
    [("token", .text entry.token), ("subject", .text entry.subject),
      ("scopes", .texts entry.scopes), ("clusters", .texts entry.clusters),
      ("expires_at", match entry.expiresAt with
        | some time => .natural time
        | none => .null)]

def fieldNames : List String :=
  ["token", "subject", "scopes", "clusters", "expires_at"]

def decode? {α : Type} (format : Format α) (value : α) : Option TokenEntry := do
  let fields ← format.fields? fieldNames value
  let token ← fields.required? "token" format.text?
  let subject ← fields.required? "subject" format.text?
  let scopes ← fields.default? "scopes" format.texts? []
  let clusters ← fields.default? "clusters" format.texts? []
  let expiresAt ← fields.default? "expires_at" (format.optional? format.natural?) none
  some { token, subject, scopes, clusters, expiresAt }

def ofJson? (json : Json) : Option TokenEntry :=
  decode? Json.format json

def minTokenLength : Nat := 8

/-- The fields a configuration check refuses. -/
def problems (entry : TokenEntry) : List Problem :=
  Problem.check (minTokenLength ≤ entry.token.length) "token" "length" ++
    Problem.check (entry.subject ≠ "") "subject" "length"

/-- The text about an entry that a token table refuses. -/
def refusal (cause : AuthError) : String :=
  "invalid token entry: " ++ cause.message

end TokenEntry

structure TokenRecord where
  identity : Identity
  expiresAt : Option UInt64
  deriving DecidableEq

structure TokenTable where
  records : Table Digest TokenRecord

namespace TokenTable

def empty : TokenTable := ⟨∅⟩

instance : EmptyCollection TokenTable := ⟨empty⟩

def insert (table : TokenTable) (token : String) (identity : Identity)
    (expiresAt : Option UInt64) : Except AuthError TokenTable :=
  if Text.trim token.toList = [] then .error (.invalidInput "token cannot be empty")
  else if identity.subject = "" then .error (.invalidInput "subject cannot be empty")
  else .ok ⟨table.records.insert (Digest.ofText token) { identity, expiresAt }⟩

/-- Forgets a token; the flag says whether it was there. -/
def revoke (table : TokenTable) (token : String) : TokenTable × Bool :=
  (⟨table.records.erase (Digest.ofText token)⟩, table.records.contains (Digest.ofText token))

def size (table : TokenTable) : Nat :=
  table.records.size

/-- The identity behind a credential at a time in Unix seconds. -/
def validate (table : TokenTable) (now : Nat) (credential : Credential) :
    Except AuthError Identity :=
  match table.records.get? (Digest.ofText credential.token) with
  | none => .error .invalidCredential
  | some record =>
      match record.expiresAt with
      | some time => if time.toNat ≤ now then .error .expired else .ok record.identity
      | none => .ok record.identity

def insertEntry (table : TokenTable) (entry : TokenEntry) : Except AuthError TokenTable :=
  table.insert entry.token entry.identity entry.expiresAt

def ofEntries (entries : List TokenEntry) : Except AuthError TokenTable :=
  entries.foldlM insertEntry empty

end TokenTable

end EventHub
