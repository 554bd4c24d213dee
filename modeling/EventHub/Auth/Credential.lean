import EventHub.Digest.Sha256
import EventHub.Text.Ascii
import EventHub.Text.Blank
import EventHub.Text.Split

/-!
Bearer credentials. A client presents its token in an `Authorization` header or, where a browser
cannot set headers, as the entry after `bearer` in the list of sub-protocols.
-/

namespace EventHub

structure Credential where
  token : String
  deriving DecidableEq

namespace Credential

def marker : List Char :=
  ['b', 'e', 'a', 'r', 'e', 'r']

def isMarker (text : List Char) : Bool :=
  Text.equalIgnoringCase text marker

def ofChars? (token : List Char) : Option Credential :=
  if token = [] then none else some ⟨String.ofList token⟩

def ofAuthorizationChars (value : List Char) : Option Credential :=
  match Text.splitFirst ' ' (Text.trim value) with
  | none => none
  | some (scheme, rest) => if isMarker scheme then ofChars? (Text.trim rest) else none

/-- The entry after the first `bearer`. -/
def afterMarker : List (List Char) → Option (List Char)
  | [] => none
  | entry :: rest => if isMarker entry then rest.head? else afterMarker rest

def ofSubprotocolChars (value : List Char) : Option Credential :=
  (afterMarker ((Text.splitAll ',' value).map Text.trim)).bind ofChars?

def ofAuthorization (value : String) : Option Credential :=
  ofAuthorizationChars value.toList

def ofSubprotocols (value : String) : Option Credential :=
  ofSubprotocolChars value.toList

def extract (authorization subprotocols : Option String) : Option Credential :=
  match authorization.bind ofAuthorization with
  | some credential => some credential
  | none => subprotocols.bind ofSubprotocols

/-- A credential never shows its token. -/
def redacted (_ : Credential) : String :=
  "Credential(<redacted>)"

end Credential

/-- Whether two secrets have the same digest, in time independent of where they differ. -/
def secretsMatch (presented expected : String) : Bool :=
  Digest.sameDigest (Digest.ofText presented) (Digest.ofText expected)

end EventHub
