import EventHub.Node.Socket
import EventHub.Proofs.Auth.Vouching
import EventHub.Proofs.Hub.Operation

/-!
How a client gets into a node. A socket becomes a connection only after every check of the
handshake, under the identity that was vouched for, and whatever else comes of a request, the hub
does not feel it.
-/

namespace EventHub

namespace Node

variable {node : Node}

/-! A request by itself touches nothing of the hub but the events that wait to be routed. -/

theorem live_ingest (node : Node) (request : Http.Request) :
    ∃ ingest, (node.ingest request).1.live = { node.live with ingest } := by
  rw [Node.ingest]
  split
  · exact ⟨node.live.ingest, rfl⟩
  · split
    · exact ⟨node.live.ingest, rfl⟩
    · split
      · exact ⟨_, rfl⟩
      · exact ⟨_, rfl⟩

theorem live_serve (node : Node) (request : Http.Request) (endpoint : Endpoint) :
    ∃ ingest, (node.serve request endpoint).1.live = { node.live with ingest } := by
  cases endpoint with
  | events => exact node.live_ingest request
  | _ => exact ⟨node.live.ingest, rfl⟩

theorem live_dispatch (node : Node) (request : Http.Request) :
    ∃ ingest, (node.dispatch request).1.live = { node.live with ingest } := by
  rw [dispatch]
  split
  · exact ⟨node.live.ingest, rfl⟩
  · rename_i endpoint _
    split
    · exact node.live_serve request endpoint
    · exact ⟨node.live.ingest, rfl⟩

theorem live_respond (node : Node) (freshId : String) (request : Http.Request) :
    ∃ ingest, (node.respond freshId request).1.live = { node.live with ingest } := by
  rw [respond]
  exact live_dispatch _ request

/-! The identity header of a client that is not trusted makes no difference. -/

section Untrusted

variable {left right : Http.Request}

theorem requireAdmin_eq_of_sameBut (same : left.SameBut Identity.headerName right) :
    node.requireAdmin left = node.requireAdmin right := by
  rw [requireAdmin, requireAdmin, same.header? "authorization" (by decide)]

theorem ingest_eq_of_sameBut (same : left.SameBut Identity.headerName right) :
    node.ingest left = node.ingest right := by
  have body : Ingest.readBody left = Ingest.readBody right := by
    rw [Ingest.readBody, Ingest.readBody, same.header? "content-type" (by decide),
      same.body]
  rw [Node.ingest, Node.ingest, body, requireAdmin_eq_of_sameBut same]

theorem verdict_eq_of_sameBut (same : left.SameBut Identity.headerName right)
    (distrusts : ¬node.policy.Trusts left) : node.verdict left = node.verdict right :=
  HandshakePolicy.verdict_eq_of_sameBut same distrusts

theorem serve_eq_of_sameBut (same : left.SameBut Identity.headerName right)
    (distrusts : ¬node.policy.Trusts left) (endpoint : Endpoint) :
    node.serve left endpoint = node.serve right endpoint := by
  cases endpoint with
  | socket =>
      have offers : HandshakeVerdict.offersBearer left = HandshakeVerdict.offersBearer right := by
        rw [HandshakeVerdict.offersBearer, HandshakeVerdict.offersBearer,
          same.rawHeaders "sec-websocket-protocol" (by decide)]
      have switching : HandshakeVerdict.switching left = HandshakeVerdict.switching right := by
        rw [HandshakeVerdict.switching, HandshakeVerdict.switching, offers]
      rw [serve, serve, verdict_eq_of_sameBut same distrusts]
      cases node.verdict right with
      | refuse response => rfl
      | closeWith reason => exact congrArg _ switching
      | welcome identity version => exact congrArg _ switching
  | events => exact ingest_eq_of_sameBut same
  | connections =>
      rw [serve, serve, listConnections, listConnections, requireAdmin_eq_of_sameBut same]
  | _ => rfl

theorem dispatch_eq_of_sameBut (same : left.SameBut Identity.headerName right)
    (distrusts : ¬node.policy.Trusts left) : node.dispatch left = node.dispatch right := by
  rw [dispatch, dispatch, same.path, same.method]
  split
  · rfl
  · rw [serve_eq_of_sameBut same distrusts]

theorem respond_eq_of_sameBut (same : left.SameBut Identity.headerName right)
    (distrusts : ¬node.policy.Trusts left) (freshId : String) :
    node.respond freshId left = node.respond freshId right := by
  have requestId := same.header? requestIdHeader (by decide)
  have dispatched (requests : Metrics) :
      { node with requests }.dispatch left = { node with requests }.dispatch right :=
    dispatch_eq_of_sameBut same distrusts
  rw [respond, respond, dispatched, requestId]
  simp only [countRequest, same.method, same.path]

/-- What comes of a request, and what becomes of the node, is the same. -/
theorem connect_eq_of_sameBut (same : left.SameBut Identity.headerName right)
    (distrusts : ¬node.policy.Trusts left) (freshId : String) (id : ConnectionId) :
    node.connect freshId id left = node.connect freshId id right := by
  rw [connect, connect, respond_eq_of_sameBut same distrusts, verdict_eq_of_sameBut same distrusts,
    same.path]

end Untrusted

end Node

namespace HandshakePolicy

variable {policy : HandshakePolicy} {tokens : TokenTable} {now : Nat} {request : Http.Request}
  {identity : Identity} {version : UInt32}

theorem verdict_eq_welcome_iff :
    policy.verdict tokens now request = .welcome identity version ↔
      (∃ params, SocketParams.ofQuery? request.query = some params ∧
        params.protocol.getD defaultProtocolVersion = version ∧
        policy.authenticate tokens now request params = .ok identity) ∧
      version ∈ supportedProtocolVersions ∧ request.AsksForSocket := by
  rw [verdict, ← Http.Request.upgradeProblem?_eq_none_iff]
  cases parsed : SocketParams.ofQuery? request.query with
  | none => simp
  | some params =>
      by_cases supported : params.protocol.getD defaultProtocolVersion ∈ supportedProtocolVersions
      · cases outcome : policy.authenticate tokens now request params with
        | error cause =>
            cases cause with
            | missingCredential => simp [supported, outcome]
            | unavailable detail => simp [supported, outcome]
            | _ => cases request.upgradeProblem? <;> simp [supported, outcome]
        | ok found =>
            cases request.upgradeProblem? with
            | some problem => simp [supported, outcome]
            | none =>
                simp only [List.contains_eq_mem, supported, decide_true, Bool.not_true,
                  Bool.false_eq_true, if_false, outcome, HandshakeVerdict.welcome.injEq]
                constructor
                · rintro ⟨rfl, rfl⟩
                  exact ⟨⟨params, rfl, rfl, outcome⟩, supported, trivial⟩
                · rintro ⟨⟨other, same, rfl, known⟩, -⟩
                  cases same
                  exact ⟨Except.ok.inj (outcome.symm.trans known), rfl⟩
      · simp only [List.contains_eq_mem, supported, decide_false, Bool.not_false, if_true]
        refine ⟨fun welcome => (by cases welcome), ?_⟩
        rintro ⟨⟨other, same, rfl, -⟩, listed, -⟩
        cases same
        exact absurd listed supported

end HandshakePolicy

/-- One client more, who is open under that identity and version; nobody else is touched. -/
structure Hub.TakesIn (before after : Hub) (id : ConnectionId) (identity : Identity)
    (version : UInt32) : Prop where
  connection : ∃ connection, after.get? id = some connection ∧
    connection.identity = identity ∧ connection.protocolVersion = version ∧
    connection.isOpen = true
  others : ∀ other, other ≠ id → after.get? other = before.get? other
  registered : after.registered = before.registered ++ [id]
  index : after.index = before.index
  totals : after.totals = { before.totals with connections := before.totals.connections + 1 }

/-- A session that starts on a free connection leaves it with whom it belongs to. -/
theorem Session.exists_start {hub : Hub} {id : ConnectionId} {connection : Connection}
    (found : hub.get? id = some connection) (named : connection.id = id)
    (free : connection.control.reader = .waiting) (sink : Sink) :
    ∃ claimed session, start hub id sink = some (hub.modify id fun _ => claimed, session) ∧
      claimed.identity = connection.identity ∧
      claimed.protocolVersion = connection.protocolVersion ∧
      claimed.isOpen = connection.isOpen := by
  subst named
  let taken : Connection :=
    { connection with control := { connection.control with reader := .taken }, attached := true }
  let welcome : Upkeep := .sendControl (.welcome connection.id connection.protocolVersion)
  have starts : start hub connection.id sink =
      some (hub.put (welcome.apply taken), { id := connection.id, sink }) := by
    simp only [start, found, Option.bind_eq_bind, Option.bind_some, ControlQueue.take?, free,
      if_true, Upkeep.apply_sendControl, welcome]
    rfl
  obtain ⟨heartbeat, control, attached, finished, welcomed⟩ := welcome.apply_eq taken
  rw [starts, welcomed]
  exact ⟨{ taken with heartbeat, control, attached, finished }, _, rfl, rfl, rfl, rfl⟩

namespace Node

variable {node : Node}

/-- All that it takes to get in. -/
structure Admits (node : Node) (request : Http.Request) (identity : Identity) (version : UInt32) :
    Prop where
  routed : request.path = "/ws"
  authentic : ∃ params, SocketParams.ofQuery? request.query = some params ∧
    params.protocol.getD defaultProtocolVersion = version ∧
    node.policy.authenticate node.tokens node.now request params = .ok identity
  supported : version ∈ supportedProtocolVersions
  asks : request.AsksForSocket
  room : node.live.hub.count < node.live.hub.config.maxConnections

theorem accept_of_room (id : ConnectionId) (identity : Identity) (version : UInt32)
    (room : node.live.hub.count < node.live.hub.config.maxConnections) :
    (node.accept id identity version).2 = .session id ∧
      node.live.hub.TakesIn (node.accept id identity version).1.live.hub id identity version := by
  let hub := node.live.hub
  let connection := Connection.create hub.config id identity version
  let enrolled := ({ hub with
    connections := hub.connections.insert id connection
    registered := hub.registered ++ [id]
    totals := { hub.totals with connections := hub.totals.connections + 1 } } : Hub).report
      (.opened id)
  have accepted : hub.register id identity version = .ok enrolled := if_neg (Nat.not_le.2 room)
  have get?_enrolled (other : ConnectionId) :
      enrolled.get? other = if other = id then some connection else hub.get? other :=
    Table.get?_insert hub.connections id connection other
  have found : enrolled.get? id = some connection := by rw [get?_enrolled, if_pos rfl]
  obtain ⟨claimed, session, starts, identified, versioned, opened⟩ :=
    Session.exists_start found rfl rfl {}
  have accept_eq : node.accept id identity version =
      ({ node with live := { node.live with
          hub := enrolled.modify id fun _ => claimed
          sessions := node.live.sessions.insert id session } }, .session id) := by
    rw [accept, accepted]
    simp only [LiveHub.startSession, starts]
  have get?_modify (other : ConnectionId) : (enrolled.modify id fun _ => claimed).get? other =
      if other = id then (enrolled.get? other).map fun _ => claimed else enrolled.get? other :=
    Table.get?_update enrolled.connections id _ other
  rw [accept_eq]
  refine ⟨rfl, ⟨⟨claimed, ?_, identified, versioned, opened⟩, fun other apart => ?_, rfl, rfl, rfl⟩⟩
  · rw [get?_modify, if_pos rfl, found]
    rfl
  · rw [get?_modify, if_neg apart, get?_enrolled, if_neg apart]

theorem accept_of_full (id : ConnectionId) (identity : Identity) (version : UInt32)
    (full : node.live.hub.config.maxConnections ≤ node.live.hub.count) :
    node.accept id identity version = (node, .closed .capacityExceeded) := by
  rw [accept, Hub.register, if_pos full]

theorem admits_iff {request : Http.Request} {identity : Identity} {version : UInt32} :
    node.Admits request identity version ↔ request.path = "/ws" ∧
      node.verdict request = .welcome identity version ∧
      node.live.hub.count < node.live.hub.config.maxConnections := by
  rw [verdict, HandshakePolicy.verdict_eq_welcome_iff]
  constructor
  · rintro ⟨routed, authentic, supported, asks, room⟩
    exact ⟨routed, ⟨authentic, supported, asks⟩, room⟩
  · rintro ⟨routed, ⟨authentic, supported, asks⟩, room⟩
    exact ⟨routed, authentic, supported, asks, room⟩

theorem not_admits_of_verdict {request : Http.Request}
    (unwelcome : ∀ identity version, node.verdict request ≠ .welcome identity version)
    (identity : Identity) (version : UInt32) : ¬node.Admits request identity version :=
  fun admits => unwelcome identity version (admits_iff.1 admits).2.1

theorem endpoint?_eq_socket_iff {path : String} : endpoint? path = some .socket ↔ path = "/ws" := by
  constructor
  · intro found
    unfold endpoint? at found
    split at found
    · rfl
    all_goals cases found
  · rintro rfl
    rfl

theorem connect_of_elsewhere (node : Node) (freshId : String) (id : ConnectionId)
    {request : Http.Request} (elsewhere : request.path ≠ "/ws") :
    node.connect freshId id request =
      ((node.respond freshId request).1, (node.respond freshId request).2, none) := by
  cases found : endpoint? request.path with
  | none => rw [connect, found]
  | some endpoint =>
      cases endpoint with
      | socket => exact absurd (endpoint?_eq_socket_iff.1 found) elsewhere
      | _ => rw [connect, found]

/-- What a request makes of the hub: a new connection if it passes every check, and nothing
otherwise. Only where sockets are served does the client get one at all. -/
inductive Handshakes (node : Node) (request : Http.Request) (id : ConnectionId) (next : Node) :
    Option SocketOutcome → Prop where
  | admitted {identity : Identity} {version : UInt32}
      (admits : node.Admits request identity version)
      (takesIn : node.live.hub.TakesIn next.live.hub id identity version) :
      Handshakes node request id next (some (.session id))
  | turnedAway {outcome : Option SocketOutcome}
      (denied : ∀ identity version, ¬node.Admits request identity version)
      (unopened : ∀ other, outcome ≠ some (.session other))
      (elsewhere : request.path ≠ "/ws" → outcome = none)
      (untouched : ∃ ingest, next.live = { node.live with ingest }) :
      Handshakes node request id next outcome

theorem handshakes_connect (node : Node) (freshId : String) (id : ConnectionId)
    (request : Http.Request) :
    node.Handshakes request id (node.connect freshId id request).1
      (node.connect freshId id request).2.2 := by
  obtain ⟨ingest, live⟩ := node.live_respond freshId request
  have hub : (node.respond freshId request).1.live.hub = node.live.hub := by rw [live]
  rcases ne_or_eq request.path "/ws" with elsewhere | routed
  · rw [connect_of_elsewhere node freshId id elsewhere]
    exact .turnedAway (fun _ _ admits => elsewhere admits.routed) (fun _ => by simp)
      (fun _ => rfl) ⟨ingest, live⟩
  have socket := endpoint?_eq_socket_iff.2 routed
  cases verdict : node.verdict request with
  | refuse response =>
      have connect_eq : node.connect freshId id request =
          ((node.respond freshId request).1, (node.respond freshId request).2, none) := by
        rw [connect, socket, verdict]
      rw [connect_eq]
      exact .turnedAway (not_admits_of_verdict (by simp [verdict])) (fun _ => by simp)
        (absurd routed) ⟨ingest, live⟩
  | closeWith reason =>
      have connect_eq : node.connect freshId id request =
          ((node.respond freshId request).1, (node.respond freshId request).2,
            some (.closed reason)) := by
        rw [connect, socket, verdict]
      rw [connect_eq]
      exact .turnedAway (not_admits_of_verdict (by simp [verdict])) (fun _ => by simp)
        (absurd routed) ⟨ingest, live⟩
  | welcome identity version =>
      let accepted := (node.respond freshId request).1.accept id identity version
      have connect_eq : node.connect freshId id request =
          (accepted.1, (node.respond freshId request).2, some accepted.2) := by
        rw [connect, socket, verdict]
      rw [connect_eq]
      by_cases room : node.live.hub.count < node.live.hub.config.maxConnections
      · have roomToo : (node.respond freshId request).1.live.hub.count <
            (node.respond freshId request).1.live.hub.config.maxConnections := hub ▸ room
        obtain ⟨outcome, takesIn⟩ := accept_of_room id identity version roomToo
        rw [hub] at takesIn
        rw [outcome]
        exact .admitted (admits_iff.2 ⟨routed, verdict, room⟩) takesIn
      · have full : (node.respond freshId request).1.live.hub.config.maxConnections ≤
            (node.respond freshId request).1.live.hub.count := hub ▸ Nat.not_lt.1 room
        rw [show accepted = _ from accept_of_full id identity version full]
        exact .turnedAway (fun _ _ admits => room admits.room) (fun _ => by simp) (absurd routed)
          ⟨ingest, live⟩

/-- A request gets in only as somebody whom a gateway or a credential vouches for and who may read
events. Unless the gateway's secret is shown, what the request says about an identity makes no
difference, and a request that fails in any way leaves the hub as it was. -/
theorem handshake_sound (node : Node) (request : Http.Request) :
    (∀ params identity,
      node.policy.authenticate node.tokens node.now request params = .ok identity ↔
        node.policy.Vouches node.tokens node.now request params identity ∧ identity.Reads) ∧
    (∀ other, request.SameBut Identity.headerName other → ¬node.policy.Trusts request →
      (∀ params, node.policy.authenticate node.tokens node.now request params =
        node.policy.authenticate node.tokens node.now other params) ∧
      ∀ freshId id, node.connect freshId id request = node.connect freshId id other) ∧
    ∀ freshId id, node.Handshakes request id (node.connect freshId id request).1
      (node.connect freshId id request).2.2 := by
  refine ⟨fun params identity => HandshakePolicy.authenticate_eq_ok_iff, ?_, ?_⟩
  · intro other same distrusts
    exact ⟨HandshakePolicy.authenticate_eq_of_sameBut same distrusts,
      connect_eq_of_sameBut same distrusts⟩
  · exact fun freshId id => node.handshakes_connect freshId id request

/-- A client that calls itself an administrator gets what it would get without saying so. -/
theorem handshake_sound_spoofed :
    ({ live := .start {}, now := 0 } : Node).connect "r" "c"
        { method := "GET", path := "/ws",
          headers := [("X-Pulse-Identity", "\x7b\"subject\":\"root\"\x7d")] } =
      ({ live := .start {}, now := 0 } : Node).connect "r" "c" { method := "GET", path := "/ws" } :=
  ((handshake_sound { live := .start {}, now := 0 }
      { method := "GET", path := "/ws",
        headers := [("X-Pulse-Identity", "\x7b\"subject\":\"root\"\x7d")] }).2.1
    { method := "GET", path := "/ws" } ⟨rfl, rfl, rfl, by decide, rfl, rfl⟩
    (fun ⟨_, _, configured, _⟩ => nomatch configured)).2 "r" "c"

end Node

end EventHub
