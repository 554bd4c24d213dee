import EventHub.Gateway.Basic
import EventHub.Proofs.Auth.Header
import EventHub.Proofs.Auth.Vouching
import EventHub.Proofs.Http.Host
import EventHub.Settings.Server

/-!
What a hub makes of the identity its gateway forwards. The identity survives the way through the
header, but a header is sent and read as text only if every character of it is plain, and the
written form of an identity escapes nothing from U+007F on.
-/

namespace EventHub

open Http.Request (isPlain)

namespace Json

theorem isPlain_escapeChar_of_lt {char : Char} (low : char.toNat < 0x7F) :
    ∀ written ∈ escapeChar char, isPlain written = true := by
  have listed : ∀ code < 0x7F, (escapeChar (Char.ofNat code)).all isPlain = true := by
    decide +kernel
  have plain := listed char.toNat low
  rw [Char.ofNat_toNat] at plain
  exact List.all_eq_true.1 plain

theorem escapeChar_of_le {char : Char} (high : 0x7F ≤ char.toNat) : escapeChar char = [char] := by
  have apart (other : Char) (low : other.toNat < 0x7F) : char ≠ other := by
    rintro rfl
    omega
  have printed : ¬char.toNat < 0x20 := by omega
  simp [escapeChar, printed, apart '"' (by decide), apart '\\' (by decide), apart '\n' (by decide),
    apart '\r' (by decide), apart '\t' (by decide), apart '\x08' (by decide),
    apart '\x0c' (by decide)]

theorem not_isPlain_of_le {char : Char} (high : 0x7F ≤ char.toNat) : isPlain char = false := by
  have noTab : char ≠ '\t' := by
    rintro rfl
    exact absurd high (by decide)
  have beyond : ¬char ≤ '~' := by
    rw [Char.le_def, UInt32.le_iff_toNat_le]
    exact Nat.not_le.2 high
  simp [isPlain, noTab, beyond]

theorem spells_isPlain_iff (text : String) :
    Spells (isPlain · = true) text ↔ ∀ char ∈ text.toList, char.toNat < 0x7F := by
  refine forall₂_congr fun char _ => ⟨fun plain => ?_, isPlain_escapeChar_of_lt⟩
  refine Nat.lt_of_not_le fun high => ?_
  rw [escapeChar_of_le high, List.forall_mem_singleton, not_isPlain_of_le high] at plain
  cases plain

end Json

theorem Identity.isPlain_toHeader_iff (identity : Identity) :
    (∀ char ∈ identity.toHeader.toList, isPlain char = true) ↔
      ∀ name ∈ identity.names, ∀ char ∈ name.toList, char.toNat < 0x7F := by
  have visible (char : Char) (least : ' ' ≤ char) (most : char ≤ '~') : isPlain char = true := by
    simp [isPlain, least, most]
  rw [identity.forall_mem_toHeader visible]
  exact forall₂_congr fun name _ => Json.spells_isPlain_iff name

namespace HubLink

variable {link : HubLink} {policy : HandshakePolicy} {identity : Identity}
  {version : Option UInt32} {uri : Http.Uri} {host : String} {request : Http.Request}

/-- The hub takes the handshake for the client's own, whatever else it knows and whatever the
query says. -/
def Introduces (link : HubLink) (policy : HandshakePolicy) (identity : Identity)
    (version : Option UInt32) : Prop :=
  ∃ uri request, link.handshake identity version = .ok (uri, request) ∧
    ∀ tokens now params, policy.authenticate tokens now request params = .ok identity

/-- The secret and every name in the identity are text that a header carries. -/
structure Legible (link : HubLink) (identity : Identity) : Prop where
  secret : ∀ char ∈ link.proxySecret.toList, isPlain char = true
  names : ∀ name ∈ identity.names, ∀ char ∈ name.toList, char.toNat < 0x7F

theorem isHeaderValue_of_isPlain {text : String}
    (plain : ∀ char ∈ text.toList, isPlain char = true) : isHeaderValue text = true := by
  refine List.all_eq_true.2 fun char member => ?_
  have shown := plain char member
  simp only [isPlain, Bool.or_eq_true, Bool.and_eq_true, beq_iff_eq, decide_eq_true_eq,
    Char.le_def, UInt32.le_iff_toNat_le] at shown
  rcases shown with rfl | ⟨least, most⟩
  · rfl
  · have least : 0x20 ≤ char.toNat := least
    have most : char.toNat ≤ 0x7E := most
    have noDelete : char.toNat ≠ 0x7F := by omega
    simp [least, noDelete]

theorem canSend_iff (headers : request.headers = link.handshakeHeaders host identity)
    (plainHost : ∀ char ∈ host.toList, isPlain char = true) :
    canSend request = true ↔ link.Legible identity := by
  have fixed : ["Upgrade", "websocket", "13", "dGhlIHNhbXBsZSBub25jZQ=="].all
      (fun value => value.toList.all isPlain) = true := by decide
  rw [canSend, headers, handshakeHeaders]
  simp only [List.all_cons, List.all_nil, Bool.and_eq_true, and_true] at fixed ⊢
  obtain ⟨upgrade, protocol, version, key⟩ := fixed
  constructor
  · rintro ⟨_, _, _, _, _, value, secret⟩
    exact ⟨List.all_eq_true.1 secret, identity.isPlain_toHeader_iff.1 (List.all_eq_true.1 value)⟩
  · rintro ⟨secret, names⟩
    exact ⟨List.all_eq_true.2 plainHost, upgrade, protocol, version, key,
      List.all_eq_true.2 (identity.isPlain_toHeader_iff.2 names), List.all_eq_true.2 secret⟩

theorem rawHeaders_handshake (headers : request.headers = link.handshakeHeaders host identity)
    (name : String) :
    request.rawHeaders name =
      ((link.handshakeHeaders host identity).filter fun header => header.1 == name).map (·.2) := by
  have small : ["host", "connection", "upgrade", "sec-websocket-version", "sec-websocket-key",
      Identity.headerName, Identity.secretHeaderName].all
        (fun name => Text.lowerString name == name) = true := by decide
  have kept : ∀ header ∈ link.handshakeHeaders host identity,
      (Text.lowerString header.1 == name) = (header.1 == name) := by
    simp only [List.all_cons, List.all_nil, Bool.and_eq_true, beq_iff_eq, and_true] at small
    obtain ⟨first, second, third, fourth, fifth, sixth, last⟩ := small
    simp [handshakeHeaders, first, second, third, fourth, fifth, sixth, last]
  rw [Http.Request.rawHeaders, headers, List.filter_congr kept]

theorem header?_identity (headers : request.headers = link.handshakeHeaders host identity) :
    request.header? Identity.headerName =
      if identity.toHeader.toList.all isPlain then some identity.toHeader else none := by
  have raw : request.rawHeader? Identity.headerName = some identity.toHeader := by
    rw [Http.Request.rawHeader?, rawHeaders_handshake headers, handshakeHeaders]
    simp [Identity.headerName, Identity.secretHeaderName]
  rw [Http.Request.header?, raw, Option.filter_some]

theorem header?_secret (headers : request.headers = link.handshakeHeaders host identity) :
    request.header? Identity.secretHeaderName =
      if link.proxySecret.toList.all isPlain then some link.proxySecret else none := by
  have raw : request.rawHeader? Identity.secretHeaderName = some link.proxySecret := by
    rw [Http.Request.rawHeader?, rawHeaders_handshake headers, handshakeHeaders]
    simp [Identity.headerName, Identity.secretHeaderName]
  rw [Http.Request.header?, raw, Option.filter_some]

/-- The gateway shows the hub no credential of the client's. -/
theorem ofRequest_handshake (headers : request.headers = link.handshakeHeaders host identity)
    (allowQueryToken : Bool) : Credential.ofRequest allowQueryToken request {} = none := by
  have authorization : request.header? "authorization" = none := by
    rw [Http.Request.header?, Http.Request.rawHeader?, rawHeaders_handshake headers,
      handshakeHeaders]
    simp [Identity.headerName, Identity.secretHeaderName]
  have subprotocols : request.header? "sec-websocket-protocol" = none := by
    rw [Http.Request.header?, Http.Request.rawHeader?, rawHeaders_handshake headers,
      handshakeHeaders]
    simp [Identity.headerName, Identity.secretHeaderName]
  rw [Credential.ofRequest, authorization, subprotocols]
  cases allowQueryToken <;> rfl

theorem authenticate_eq_ok (headers : request.headers = link.handshakeHeaders host identity)
    (legible : link.Legible identity)
    (shared : policy.trustedProxySecret = some link.proxySecret) (named : identity.subject ≠ "")
    (reads : identity.hasScope Identity.readScope = true) (tokens : TokenTable) (now : Nat)
    (params : SocketParams) : policy.authenticate tokens now request params = .ok identity := by
  have value := identity.isPlain_toHeader_iff.2 legible.names
  have shown : request.header? Identity.secretHeaderName = some link.proxySecret := by
    rw [header?_secret headers, if_pos (List.all_eq_true.2 legible.secret)]
  have carried : request.header? Identity.headerName = some identity.toHeader := by
    rw [header?_identity headers, if_pos (List.all_eq_true.2 value)]
  rw [HandshakePolicy.authenticate_of_shown shared shown, HandshakePolicy.forwarded_eq_ok_iff]
  exact ⟨⟨rfl, identity.toHeader, carried, identity.ofHeader_toHeader named⟩,
    Identity.hasScope_readScope_iff.1 reads⟩

theorem authenticate_of_illegible_secret
    (headers : request.headers = link.handshakeHeaders host identity)
    (illegible : ¬∀ char ∈ link.proxySecret.toList, isPlain char = true) (tokens : TokenTable)
    (now : Nat) : policy.authenticate tokens now request {} = .error .missingCredential := by
  have unread : request.header? Identity.secretHeaderName = none := by
    rw [header?_secret headers, if_neg (mt List.all_eq_true.1 illegible)]
  rw [HandshakePolicy.authenticate_of_undecided (.inr unread), HandshakePolicy.direct,
    ofRequest_handshake headers]

theorem authenticate_of_illegible_names
    (headers : request.headers = link.handshakeHeaders host identity)
    (secret : ∀ char ∈ link.proxySecret.toList, isPlain char = true)
    (illegible : ¬∀ name ∈ identity.names, ∀ char ∈ name.toList, char.toNat < 0x7F)
    (shared : policy.trustedProxySecret = some link.proxySecret) (tokens : TokenTable)
    (now : Nat) (params : SocketParams) :
    policy.authenticate tokens now request params = .error .invalidCredential := by
  have unread : request.header? Identity.headerName = none := by
    rw [header?_identity headers, if_neg]
    rw [List.all_eq_true, identity.isPlain_toHeader_iff]
    exact illegible
  have shown : request.header? Identity.secretHeaderName = some link.proxySecret := by
    rw [header?_secret headers, if_pos (List.all_eq_true.2 secret)]
  rw [HandshakePolicy.authenticate_of_shown shared shown, HandshakePolicy.forwarded,
    if_pos (secretsMatch_iff.2 rfl), unread]

theorem headers_of_handshake (target : Http.Uri.parse? (link.urlFor version) = some uri)
    (atHost : uri.host? = some host) {asked : Http.Uri}
    (made : link.handshake identity version = .ok (asked, request)) :
    request.headers = link.handshakeHeaders host identity := by
  simp only [handshake, target, atHost, Option.bind_some, Option.map_some] at made
  split at made
  case isTrue =>
    cases made
    rfl
  case isFalse => cases made

theorem exists_handshake (target : Http.Uri.parse? (link.urlFor version) = some uri)
    (atHost : uri.host? = some host) (legible : link.Legible identity) :
    ∃ request, link.handshake identity version = .ok (uri, request) := by
  have value : isHeaderValue identity.toHeader = true :=
    isHeaderValue_of_isPlain (identity.isPlain_toHeader_iff.2 legible.names)
  have secret : isHeaderValue link.proxySecret = true := isHeaderValue_of_isPlain legible.secret
  simp [handshake, target, atHost, value, secret]

theorem introduces_iff (target : Http.Uri.parse? (link.urlFor version) = some uri)
    (atHost : uri.host? = some host)
    (shared : policy.trustedProxySecret = some link.proxySecret) (named : identity.subject ≠ "")
    (reads : identity.hasScope Identity.readScope = true) :
    link.Introduces policy identity version ↔ link.Legible identity := by
  constructor
  · rintro ⟨asked, request, made, taken⟩
    have headers := headers_of_handshake target atHost made
    have secret : ∀ char ∈ link.proxySecret.toList, isPlain char = true := by
      refine Classical.byContradiction fun illegible => ?_
      have refused : policy.authenticate ∅ 0 request {} = .error .missingCredential :=
        authenticate_of_illegible_secret headers illegible ∅ 0
      rw [taken ∅ 0 {}] at refused
      cases refused
    refine ⟨secret, Classical.byContradiction fun illegible => ?_⟩
    have refused := authenticate_of_illegible_names headers secret illegible shared ∅ 0 {}
    rw [taken ∅ 0 {}] at refused
    cases refused
  · intro legible
    obtain ⟨request, made⟩ := exists_handshake target atHost legible
    have headers := headers_of_handshake target atHost made
    exact ⟨uri, request, made, authenticate_eq_ok headers legible shared named reads⟩

/-- What a header cannot carry ends the attempt before the network has a say. -/
theorem connect_of_not_legible (target : Http.Uri.parse? (link.urlFor version) = some uri)
    (atHost : uri.host? = some host) (illegible : ¬link.Legible identity) (network : Network) :
    ∃ cause, link.connect network identity version = .error cause := by
  have plainHost := Http.Uri.isPlain_of_host? target atHost
  cases made : link.handshake identity version with
  | error cause => exact ⟨cause, by rw [connect, made]; rfl⟩
  | ok answer =>
      obtain ⟨asked, request⟩ := answer
      have unsent : canSend request = false := by
        rw [Bool.eq_false_iff, Ne, canSend_iff (headers_of_handshake target atHost made) plainHost]
        exact illegible
      simp only [connect, made, unsent, bind, Except.bind]
      cases hasSocketScheme asked with
      | false => exact ⟨_, rfl⟩
      | true => exact ⟨_, rfl⟩

end HubLink

namespace Gateway

variable {gateway : Gateway} {credential : Credential} {identity : Identity}

theorem identify_eq (gateway : Gateway) (credential : Credential) :
    gateway.identify credential =
      (gateway.tokens.validate gateway.now credential).bind Identity.reader :=
  rfl

theorem reads_of_identify (identified : gateway.identify credential = .ok identity) :
    identity.hasScope Identity.readScope = true := by
  rw [identify_eq, Identity.bind_reader_eq_ok_iff] at identified
  exact Identity.hasScope_readScope_iff.2 identified.2

/-- A client that the gateway lets in is introduced to the hub as itself exactly when the secret
and its names are legible. The handshake of such a client can be sent; any other client is turned
away, whatever hub there is. -/
theorem forwarding {policy : HandshakePolicy} {version : Option UInt32} {uri : Http.Uri}
    {host : String} (identified : gateway.identify credential = .ok identity)
    (named : identity.subject ≠ "")
    (shared : policy.trustedProxySecret = some gateway.link.proxySecret)
    (target : Http.Uri.parse? (gateway.link.urlFor version) = some uri)
    (atHost : uri.host? = some host) :
    (gateway.link.Introduces policy identity version ↔ gateway.link.Legible identity) ∧
      (gateway.link.Legible identity → ∃ request,
        gateway.link.handshake identity version = .ok (uri, request) ∧
          HubLink.canSend request = true) ∧
      (¬gateway.link.Legible identity → ∀ network,
        gateway.openRelay network identity version = (gateway, .closed .serverUnavailable)) := by
  have reads := reads_of_identify identified
  have plainHost := Http.Uri.isPlain_of_host? target atHost
  refine ⟨HubLink.introduces_iff target atHost shared named reads, fun legible => ?_,
    fun illegible network => ?_⟩
  · obtain ⟨request, made⟩ := HubLink.exists_handshake target atHost legible
    have headers := HubLink.headers_of_handshake target atHost made
    exact ⟨request, made, (HubLink.canSend_iff headers plainHost).2 legible⟩
  · obtain ⟨cause, failed⟩ := HubLink.connect_of_not_legible target atHost illegible network
    rw [openRelay, failed]

def withClient (identity : Identity) : Gateway where
  tokens := ⟨(∅ : Table Digest TokenRecord).insert (Digest.ofText "token-0001") ⟨identity, none⟩⟩
  link := { url := "ws://hub/ws", proxySecret := "0123456789abcdef" }
  now := 0

/-- Where that gateway finds its hub. -/
def hubAddress : Http.Uri where
  scheme := some "ws"
  authority := some "hub"
  path := "/ws"

/-- What its hub trusts. -/
def hubPolicy : HandshakePolicy where
  trustedProxySecret := some "0123456789abcdef"

theorem identify_withClient (reads : identity.hasScope Identity.readScope = true) :
    (withClient identity).identify ⟨"token-0001"⟩ = .ok identity := by
  have validated : (withClient identity).tokens.validate (withClient identity).now
      ⟨"token-0001"⟩ = .ok identity := by
    simp only [TokenTable.validate, withClient, Table.get?_insert, if_true]
  rw [identify_eq, Identity.bind_reader_eq_ok_iff]
  exact ⟨validated, Identity.hasScope_readScope_iff.1 reads⟩

theorem target_withClient (identity : Identity) :
    Http.Uri.parse? ((withClient identity).link.urlFor none) = some hubAddress := by
  show Http.Uri.parse? "ws://hub/ws" = some hubAddress
  decide

theorem host_hubAddress : hubAddress.host? = some "hub" := by
  decide

theorem isPlain_secret (identity : Identity) :
    ∀ char ∈ (withClient identity).link.proxySecret.toList, isPlain char = true := by
  have plain : "0123456789abcdef".toList.all isPlain = true := by decide
  exact List.all_eq_true.1 plain

/-- A reader of events without a display name, who may see every cluster. -/
def reader (subject : String) : Identity where
  subject := subject
  scopes := NameSet.ofList [Identity.readScope]

theorem hasScope_reader (subject : String) :
    (reader subject).hasScope Identity.readScope = true := by
  rfl

theorem names_reader_iff (subject : String) :
    (∀ name ∈ (reader subject).names, ∀ char ∈ name.toList, char.toNat < 0x7F) ↔
      [subject, "events:read"].all (fun name => name.toList.all (·.toNat < 0x7F)) = true := by
  have names : (reader subject).names = [subject, "events:read"] := rfl
  rw [names]
  simp only [List.all_eq_true, decide_eq_true_eq]

/-- Quotes and control characters in a name are no obstacle. -/
theorem forwarding_clerk :
    let clerk := reader "clerk \"north\"\n"
    (withClient clerk).identify ⟨"token-0001"⟩ = .ok clerk ∧ clerk.subject ≠ "" ∧
      hubPolicy.trustedProxySecret = some (withClient clerk).link.proxySecret ∧
      Http.Uri.parse? ((withClient clerk).link.urlFor none) = some hubAddress ∧
      hubAddress.host? = some "hub" ∧
      (withClient clerk).link.Introduces hubPolicy clerk none ∧
      ∃ request, (withClient clerk).link.handshake clerk none = .ok (hubAddress, request) ∧
        HubLink.canSend request = true := by
  intro clerk
  have identified : (withClient clerk).identify ⟨"token-0001"⟩ = .ok clerk :=
    identify_withClient (hasScope_reader _)
  have named : clerk.subject ≠ "" := by decide
  have shared : hubPolicy.trustedProxySecret = some (withClient clerk).link.proxySecret := rfl
  have target := target_withClient clerk
  have names : ∀ name ∈ clerk.names, ∀ char ∈ name.toList, char.toNat < 0x7F := by
    rw [names_reader_iff]
    decide
  have legible : (withClient clerk).link.Legible clerk := ⟨isPlain_secret clerk, names⟩
  have forwarded := forwarding identified named shared target host_hubAddress
  exact ⟨identified, named, shared, target, host_hubAddress, forwarded.1.2 legible,
    forwarded.2.1 legible⟩

/-- A name beyond ASCII goes into the header as it is, and the hub does not read the header. -/
theorem accented_refused :
    (withClient (reader "é")).identify ⟨"token-0001"⟩ = .ok (reader "é") ∧
      (reader "é").subject ≠ "" ∧
      minSecretLength ≤ (withClient (reader "é")).link.proxySecret.length ∧
      hubPolicy.trustedProxySecret = some (withClient (reader "é")).link.proxySecret ∧
      ∃ request,
        (withClient (reader "é")).link.handshake (reader "é") none = .ok (hubAddress, request) ∧
        ∀ tokens now params,
          hubPolicy.authenticate tokens now request params = .error .invalidCredential := by
  let link := (withClient (reader "é")).link
  have target : Http.Uri.parse? (link.urlFor none) = some hubAddress := target_withClient _
  have shared : hubPolicy.trustedProxySecret = some link.proxySecret := rfl
  have secret := isPlain_secret (reader "é")
  have value : HubLink.isHeaderValue (reader "é").toHeader = true := by decide
  have names : ¬∀ name ∈ (reader "é").names, ∀ char ∈ name.toList, char.toNat < 0x7F := by
    rw [names_reader_iff]
    decide
  obtain ⟨request, made⟩ : ∃ request,
      link.handshake (reader "é") none = .ok (hubAddress, request) := by
    have secretValue := HubLink.isHeaderValue_of_isPlain secret
    simp [HubLink.handshake, target, host_hubAddress, value, secretValue, link]
  have headers := HubLink.headers_of_handshake target host_hubAddress made
  refine ⟨identify_withClient (hasScope_reader "é"), by decide, by decide, shared, request, made,
    ?_⟩
  exact HubLink.authenticate_of_illegible_names headers secret names shared

end Gateway

end EventHub
