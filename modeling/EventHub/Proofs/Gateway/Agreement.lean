import EventHub.Node.Basic
import EventHub.Proofs.Gateway.Forwarding

/-!
A gateway and a node each decide on a handshake by themselves. With the same tokens they decide
alike: the one lets in whom the other lets in, and turns the others away in the same words.
-/

namespace EventHub

namespace SocketParams

variable {pairs : List (String × String)} {params : SocketParams}

def occurrences (name : String) (pairs : List (String × String)) : Nat :=
  (pairs.map Prod.fst).count name

/-- A parameter that a server knows is there more than once. -/
def Repeats (pairs : List (String × String)) : Prop :=
  1 < occurrences "protocol" pairs ∨ 1 < occurrences "access_token" pairs

instance : Decidable (Repeats pairs) :=
  inferInstanceAs (Decidable (_ ∨ _))

theorem occurrences_cons (name : String) (pair : String × String) :
    occurrences name (pair :: pairs) =
      occurrences name pairs + if pair.1 = name then 1 else 0 := by
  rw [occurrences, List.map_cons, List.count_cons, ← occurrences]
  simp

theorem Repeats.cons (repeats : Repeats pairs) (pair : String × String) :
    Repeats (pair :: pairs) := by
  rw [Repeats, occurrences_cons, occurrences_cons]
  exact repeats.imp (Nat.lt_add_right _) (Nat.lt_add_right _)

/-- One parameter more, or one that does not count. -/
inductive Takes (params : SocketParams) (name value : String) : SocketParams → Prop where
  | protocol {version : UInt32} (named : name = "protocol") (free : params.protocol = none)
      (read : version? value = some version) :
      Takes params name value { params with protocol := some version }
  | accessToken (named : name = "access_token") (free : params.accessToken = none) :
      Takes params name value { params with accessToken := some value }
  | other (noProtocol : name ≠ "protocol") (noAccessToken : name ≠ "access_token") :
      Takes params name value params

theorem ofPairs?_cons_eq_some_iff {name value : String} :
    ofPairs? ((name, value) :: pairs) = some params ↔
      ∃ before, ofPairs? pairs = some before ∧ Takes before name value params := by
  simp only [ofPairs?, Option.bind_eq_bind, Option.bind_eq_some_iff]
  refine exists_congr fun before => and_congr_right fun _ => ?_
  constructor
  · intro taken
    split at taken
    · rename_i protocol
      split at taken
      · cases taken
      · rename_i free
        obtain ⟨version, read, rfl⟩ := Option.map_eq_some_iff.1 taken
        exact .protocol protocol (by simpa using free) read
    · rename_i noProtocol
      split at taken
      · rename_i accessToken
        split at taken
        · cases taken
        · rename_i free
          cases taken
          exact .accessToken accessToken (by simpa using free)
      · rename_i noAccessToken
        cases taken
        exact .other noProtocol noAccessToken
  · intro takes
    cases takes with
    | protocol named free read => simp [named, free, read]
    | accessToken named free => simp [named, free]
    | other noProtocol noAccessToken => simp [noProtocol, noAccessToken]

theorem occurrences_of_ofPairs? (read : ofPairs? pairs = some params) :
    occurrences "protocol" pairs = params.protocol.toList.length ∧
      occurrences "access_token" pairs = params.accessToken.toList.length := by
  induction pairs generalizing params with
  | nil =>
      cases read
      exact ⟨rfl, rfl⟩
  | cons pair rest ih =>
      obtain ⟨before, readRest, takes⟩ := ofPairs?_cons_eq_some_iff.1 read
      obtain ⟨protocols, tokens⟩ := ih readRest
      rw [occurrences_cons, occurrences_cons, protocols, tokens]
      cases takes with
      | protocol named free => simp [named, free]
      | accessToken named free => simp [named, free]
      | other noProtocol noAccessToken => simp [noProtocol, noAccessToken]

theorem not_repeats_of_ofPairs? (read : ofPairs? pairs = some params) : ¬Repeats pairs := by
  obtain ⟨protocols, tokens⟩ := occurrences_of_ofPairs? read
  rw [Repeats, protocols, tokens, not_or]
  exact ⟨Nat.not_lt.2 Option.length_toList_le, Nat.not_lt.2 Option.length_toList_le⟩

/-- With versions that can be read, nothing but a repetition makes a query unreadable. -/
theorem exists_of_not_repeats (once : ¬Repeats pairs)
    (legible : ∀ value, ("protocol", value) ∈ pairs → (version? value).isSome = true) :
    ∃ params, ofPairs? pairs = some params := by
  induction pairs with
  | nil => exact ⟨{}, rfl⟩
  | cons pair rest ih =>
      have legibleRest (value : String) (member : ("protocol", value) ∈ rest) :=
        legible value (List.mem_cons_of_mem _ member)
      obtain ⟨before, read⟩ := ih (mt (·.cons pair) once) legibleRest
      obtain ⟨name, value⟩ := pair
      suffices takes : ∃ params, Takes before name value params by
        obtain ⟨params, takes⟩ := takes
        exact ⟨params, ofPairs?_cons_eq_some_iff.2 ⟨before, read, takes⟩⟩
      obtain ⟨protocols, tokens⟩ := occurrences_of_ofPairs? read
      obtain ⟨oneProtocol, oneToken⟩ := not_or.1 once
      rw [occurrences_cons, protocols] at oneProtocol
      rw [occurrences_cons, tokens] at oneToken
      have free {α : Type} {given : Option α} (alone : ¬1 < given.toList.length + 1) :
          given = none := by
        cases given with
        | none => rfl
        | some _ => exact absurd (Nat.lt_succ_self 1) alone
      by_cases protocol : name = "protocol"
      · subst protocol
        obtain ⟨version, readVersion⟩ :=
          Option.isSome_iff_exists.1 (legible value List.mem_cons_self)
        exact ⟨_, .protocol rfl (free oneProtocol) readVersion⟩
      · by_cases accessToken : name = "access_token"
        · subst accessToken
          exact ⟨_, .accessToken rfl (free oneToken)⟩
        · exact ⟨before, .other protocol accessToken⟩

theorem exists_of_protocol {version : UInt32} (read : ofPairs? pairs = some params)
    (asked : params.protocol = some version) :
    ∃ value, ("protocol", value) ∈ pairs ∧ version? value = some version := by
  induction pairs generalizing params with
  | nil =>
      cases read
      cases asked
  | cons pair rest ih =>
      obtain ⟨name, first⟩ := pair
      obtain ⟨before, readRest, takes⟩ := ofPairs?_cons_eq_some_iff.1 read
      have later (asked : before.protocol = some version) :
          ∃ value, ("protocol", value) ∈ (name, first) :: rest ∧ version? value = some version := by
        obtain ⟨value, member, readVersion⟩ := ih readRest asked
        exact ⟨value, List.mem_cons_of_mem _ member, readVersion⟩
      cases takes with
      | protocol named free readVersion =>
          subst named
          cases asked
          exact ⟨first, List.mem_cons_self, readVersion⟩
      | accessToken => exact later asked
      | other => exact later asked

end SocketParams

namespace Http.Request

def pairs (request : Request) : List (String × String) :=
  queryPairs (request.query.getD "").toList

/-- Every protocol version the query names is one that a server speaks. -/
def AsksSupported (request : Request) : Prop :=
  ∀ value, ("protocol", value) ∈ request.pairs →
    ∃ version ∈ supportedProtocolVersions, SocketParams.version? value = some version

end Http.Request

namespace HandshakeVerdict

variable {ν μ : Type}

def map (change : ν → μ) : HandshakeVerdict ν → HandshakeVerdict μ
  | refuse response => refuse response
  | closeWith reason => closeWith reason
  | welcome identity version => welcome identity (change version)

end HandshakeVerdict

/-- A table of tokens never says that it is out of service, or that there was no credential. -/
theorem TokenTable.cause_of_bind_reader {tokens : TokenTable} {now : Nat} {credential : Credential}
    {cause : AuthError}
    (failed : (tokens.validate now credential).bind Identity.reader = .error cause) :
    cause = .invalidCredential ∨ cause = .expired ∨ cause = .missingScope Identity.readScope := by
  have unread {identity : Identity} (failed : identity.reader = .error cause) :
      cause = .missingScope Identity.readScope := by
    rw [Identity.reader, Identity.requireScope] at failed
    split at failed
    · cases failed
    · cases failed
      rfl
  rw [validate] at failed
  split at failed
  · cases failed
    exact .inl rfl
  · split at failed
    · split at failed
      · cases failed
        exact .inr (.inl rfl)
      · exact .inr (.inr (unread failed))
    · exact .inr (.inr (unread failed))

/-- The gateway goes by the node's tokens, clock and rule about tokens in a query. -/
structure Gateway.Mirrors (gateway : Gateway) (node : Node) : Prop where
  tokens : gateway.tokens = node.tokens
  now : gateway.now = node.now
  allowQueryToken : gateway.allowQueryToken = node.policy.allowQueryToken

theorem Gateway.Mirrors.identify_eq {gateway : Gateway} {node : Node}
    (mirrors : gateway.Mirrors node) (credential : Credential) :
    gateway.identify credential =
      (node.tokens.validate node.now credential).bind Identity.reader := by
  rw [Gateway.identify_eq, mirrors.tokens, mirrors.now]

namespace Node

variable {node : Node} {gateway : Gateway} {request : Http.Request} {params : SocketParams}

theorem supported_of_asksSupported (supported : request.AsksSupported)
    (read : SocketParams.ofQuery? request.query = some params) :
    params.protocol.getD defaultProtocolVersion ∈ supportedProtocolVersions := by
  cases asked : params.protocol with
  | none => decide
  | some version =>
      obtain ⟨value, member, readVersion⟩ := SocketParams.exists_of_protocol read asked
      obtain ⟨spoken, listed, readSpoken⟩ := supported value member
      cases readVersion.symm.trans readSpoken
      exact listed

/-- The node settles the version; in all else the two agree, whatever the request. -/
theorem verdict_eq_map (supported : request.AsksSupported)
    (undecided : node.policy.Undecided request) (mirrors : gateway.Mirrors node) :
    node.verdict request =
      (gateway.verdict request).map fun asked => asked.getD defaultProtocolVersion := by
  rw [verdict, HandshakePolicy.verdict, Gateway.verdict, mirrors.allowQueryToken]
  cases read : SocketParams.ofQuery? request.query with
  | none => rfl
  | some params =>
      have listed : (!supportedProtocolVersions.contains
          (params.protocol.getD defaultProtocolVersion)) = false := by
        simpa using supported_of_asksSupported supported read
      simp only [listed, HandshakePolicy.authenticate_of_undecided undecided,
        HandshakePolicy.direct, mirrors.identify_eq]
      cases Credential.ofRequest node.policy.allowQueryToken request params with
      | none => rfl
      | some credential =>
          cases outcome : (node.tokens.validate node.now credential).bind Identity.reader with
          | ok identity =>
              simp only [outcome]
              cases request.upgradeProblem? <;> rfl
          | error cause =>
              -- Only the node would refuse on a missing credential; no table reports one.
              simp only [outcome]
              rcases TokenTable.cause_of_bind_reader outcome with rfl | rfl | rfl <;>
                cases request.upgradeProblem? <;> rfl

/-- The client shows the credential, in a header or, where that is allowed, in its query. -/
def Receives (node : Node) (request : Http.Request) (credential : Credential) : Prop :=
  ∃ params, SocketParams.ofQuery? request.query = some params ∧
    node.policy.Shows request params credential

/-- Gateway and node do the same with a client, and why. -/
inductive Concurs (node : Node) (request : Http.Request) :
    HandshakeVerdict (Option UInt32) → HandshakeVerdict UInt32 → Prop where
  | unshown {response : Http.Response} (missing : ∀ credential, ¬node.Receives request credential)
      (unauthorized : response.status = 401) :
      Concurs node request (.refuse response) (.refuse response)
  | rejected {credential : Credential} (received : node.Receives request credential)
      (invalid : ∀ identity, node.tokens.validate node.now credential = .ok identity →
        ¬identity.Reads) :
      Concurs node request (.closeWith .authenticationFailed) (.closeWith .authenticationFailed)
  | admitted {credential : Credential} {identity : Identity} {asked : Option UInt32}
      (received : node.Receives request credential)
      (valid : node.tokens.validate node.now credential = .ok identity) (reads : identity.Reads) :
      Concurs node request (.welcome identity asked)
        (.welcome identity (asked.getD defaultProtocolVersion))

theorem concurs_of_read (asks : request.AsksForSocket)
    (read : SocketParams.ofQuery? request.query = some params) (mirrors : gateway.Mirrors node) :
    Concurs node request (gateway.verdict request)
      ((gateway.verdict request).map fun asked => asked.getD defaultProtocolVersion) := by
  have upgrade := Http.Request.upgradeProblem?_eq_none_iff.2 asks
  have shows := Credential.ofRequest_eq_some_iff node.policy request params
  simp only [Gateway.verdict, read, mirrors.allowQueryToken, mirrors.identify_eq, upgrade]
  cases shown : Credential.ofRequest node.policy.allowQueryToken request params with
  | none =>
      refine .unshown (fun credential => ?_) rfl
      rintro ⟨other, readOther, received⟩
      cases read.symm.trans readOther
      cases shown.symm.trans ((shows credential).2 received)
  | some credential =>
      have received : node.Receives request credential := ⟨params, read, (shows credential).1 shown⟩
      cases outcome : (node.tokens.validate node.now credential).bind Identity.reader with
      | ok identity =>
          obtain ⟨valid, reads⟩ := Identity.bind_reader_eq_ok_iff.1 outcome
          simp only [outcome]
          exact .admitted received valid reads
      | error cause =>
          have invalid (identity : Identity)
              (valid : node.tokens.validate node.now credential = .ok identity) :
              ¬identity.Reads := by
            intro reads
            cases outcome.symm.trans (Identity.bind_reader_eq_ok_iff.2 ⟨valid, reads⟩)
          simp only [outcome]
          rcases TokenTable.cause_of_bind_reader outcome with rfl | rfl | rfl <;>
            exact .rejected received invalid

/-- Over the same tokens a gateway and a node admit the same clients as the same identities. A
query that repeats a parameter is refused by both before anybody is asked for a credential. -/
theorem admits_alike (asks : request.AsksForSocket) (supported : request.AsksSupported)
    (undecided : node.policy.Undecided request) (mirrors : gateway.Mirrors node) :
    (SocketParams.Repeats request.pairs → ∃ response, response.status = 400 ∧
      gateway.verdict request = .refuse response ∧ node.verdict request = .refuse response) ∧
    (¬SocketParams.Repeats request.pairs →
      Concurs node request (gateway.verdict request) (node.verdict request)) := by
  rw [verdict_eq_map supported undecided mirrors]
  constructor
  · intro repeats
    cases read : SocketParams.ofQuery? request.query with
    | none =>
        rw [Gateway.verdict, read]
        exact ⟨_, rfl, rfl, rfl⟩
    | some params => exact absurd repeats (SocketParams.not_repeats_of_ofPairs? read)
  · intro once
    have legible (value : String) (member : ("protocol", value) ∈ request.pairs) :
        (SocketParams.version? value).isSome = true := by
      obtain ⟨version, _, read⟩ := supported value member
      rw [read]
      rfl
    obtain ⟨params, read⟩ := SocketParams.exists_of_not_repeats once legible
    exact concurs_of_read asks read mirrors

/-- A gateway that knows one client. -/
def gatewayForClerk : Gateway :=
  .withClient (Gateway.reader "clerk")

/-- A node that knows the same client. -/
def forClerk : Node where
  live := .start {}
  tokens := gatewayForClerk.tokens
  now := 0

/-- The clerk shows its token in a header. -/
def clerkRequest (query : String) : Http.Request where
  method := "GET"
  path := "/ws"
  query := some query
  headers :=
    [("authorization", "Bearer token-0001"), ("connection", "Upgrade"), ("upgrade", "websocket"),
      ("sec-websocket-key", "dGhlIHNhbXBsZSBub25jZQ=="), ("sec-websocket-version", "13")]
  upgradable := true

theorem asksForSocket_clerkRequest (query : String) : (clerkRequest query).AsksForSocket where
  method := rfl
  connection := rfl
  upgrade := rfl
  key := ⟨"dGhlIHNhbXBsZSBub25jZQ==", rfl⟩
  version := rfl
  upgradable := rfl

theorem undecided_forClerk (request : Http.Request) : forClerk.policy.Undecided request :=
  .inl rfl

theorem mirrors_forClerk : gatewayForClerk.Mirrors forClerk :=
  ⟨rfl, rfl, rfl⟩

theorem admits_alike_clerk :
    (clerkRequest "protocol=1").AsksForSocket ∧ (clerkRequest "protocol=1").AsksSupported ∧
      forClerk.policy.Undecided (clerkRequest "protocol=1") ∧
      gatewayForClerk.Mirrors forClerk ∧
      ¬SocketParams.Repeats (clerkRequest "protocol=1").pairs ∧
      forClerk.Concurs (clerkRequest "protocol=1")
        (gatewayForClerk.verdict (clerkRequest "protocol=1"))
        (forClerk.verdict (clerkRequest "protocol=1")) := by
  have asks := asksForSocket_clerkRequest "protocol=1"
  have pairs : (clerkRequest "protocol=1").pairs = [("protocol", "1")] := by decide
  have supported : (clerkRequest "protocol=1").AsksSupported := by
    intro value member
    rw [pairs, List.mem_singleton] at member
    cases member
    exact ⟨1, by decide, by decide⟩
  have undecided := undecided_forClerk (clerkRequest "protocol=1")
  have once : ¬SocketParams.Repeats (clerkRequest "protocol=1").pairs := by
    rw [pairs]
    decide
  exact ⟨asks, supported, undecided, mirrors_forClerk, once,
    (admits_alike asks supported undecided mirrors_forClerk).2 once⟩

/-- A good token in a header is no help if the query repeats a parameter, even one that nobody
would look at. -/
theorem not_concurs_repeated :
    (clerkRequest "access_token=a&access_token=b").AsksForSocket ∧
      (clerkRequest "access_token=a&access_token=b").AsksSupported ∧
      forClerk.policy.Undecided (clerkRequest "access_token=a&access_token=b") ∧
      gatewayForClerk.Mirrors forClerk ∧
      ∃ response, response.status = 400 ∧
        gatewayForClerk.verdict (clerkRequest "access_token=a&access_token=b") =
          .refuse response ∧
        forClerk.verdict (clerkRequest "access_token=a&access_token=b") = .refuse response ∧
        ¬forClerk.Concurs (clerkRequest "access_token=a&access_token=b")
          (.refuse response) (.refuse response) := by
  have pairs : (clerkRequest "access_token=a&access_token=b").pairs =
      [("access_token", "a"), ("access_token", "b")] := by decide
  have supported : (clerkRequest "access_token=a&access_token=b").AsksSupported := by
    intro value member
    simp [pairs] at member
  have unread :
      SocketParams.ofQuery? (clerkRequest "access_token=a&access_token=b").query = none := by
    decide
  refine ⟨asksForSocket_clerkRequest _, supported, undecided_forClerk _, mirrors_forClerk, _, rfl,
    by rw [Gateway.verdict, unread], by rw [verdict, HandshakePolicy.verdict, unread],
    fun concurs => ?_⟩
  cases concurs with
  | unshown missing unauthorized => exact absurd unauthorized (by decide)

end Node

end EventHub
