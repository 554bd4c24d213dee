import EventHub.Node.Handshake
import EventHub.Proofs.Auth.Secrets
import EventHub.Proofs.Http.Upgrade

/-!
Whom a node lets in, and on whose word: a gateway that shows the right secret vouches for the
identity it forwards, and anybody else's credential for whoever it was given to.
-/

namespace EventHub

namespace Identity

/-- The identity may read events, in its own right or as an administrator. -/
def Reads (identity : Identity) : Prop :=
  identity.scopes.contains readScope = true ∨ identity.scopes.contains adminScope = true

theorem hasScope_readScope_iff {identity : Identity} :
    identity.hasScope readScope = true ↔ identity.Reads :=
  Bool.or_eq_true_iff

theorem bind_reader_eq_ok_iff {outcome : Except AuthError Identity} {identity : Identity} :
    outcome.bind reader = .ok identity ↔ outcome = .ok identity ∧ identity.Reads := by
  cases outcome with
  | error cause => exact ⟨fun read => (by cases read), fun read => (by cases read.1)⟩
  | ok found =>
      have read : Except.bind (.ok found) reader =
          if found.hasScope readScope then .ok found else .error (.missingScope readScope) := by
        simp only [Except.bind, reader, requireScope]
        split <;> rfl
      rw [read]
      constructor
      · intro known
        split at known
        · rename_i reads
          cases known
          exact ⟨rfl, hasScope_readScope_iff.1 reads⟩
        · cases known
      · rintro ⟨known, reads⟩
        cases known
        rw [if_pos (hasScope_readScope_iff.2 reads)]

end Identity

/-- Where the credential of a handshake comes from. A later source is looked at only if the ones
before it show none. -/
inductive HandshakePolicy.Shows (policy : HandshakePolicy) (request : Http.Request)
    (params : SocketParams) (credential : Credential) : Prop where
  | authorization
      (read : (request.header? "authorization").bind Credential.ofAuthorization = some credential)
  | subprotocols
      (silent : (request.header? "authorization").bind Credential.ofAuthorization = none)
      (read : (request.header? "sec-websocket-protocol").bind Credential.ofSubprotocols =
        some credential)
  | query
      (silent : (request.header? "authorization").bind Credential.ofAuthorization = none)
      (unoffered : (request.header? "sec-websocket-protocol").bind Credential.ofSubprotocols = none)
      (allowed : policy.allowQueryToken = true)
      (given : params.accessToken = some credential.token)

theorem Credential.ofRequest_eq_some_iff (policy : HandshakePolicy) (request : Http.Request)
    (params : SocketParams) (credential : Credential) :
    ofRequest policy.allowQueryToken request params = some credential ↔
      policy.Shows request params credential := by
  rw [ofRequest, extract]
  constructor
  · intro shown
    cases authorized : (request.header? "authorization").bind ofAuthorization with
    | some other =>
        rw [authorized] at shown
        exact .authorization (authorized.trans shown)
    | none =>
        rw [authorized] at shown
        cases offered : (request.header? "sec-websocket-protocol").bind ofSubprotocols with
        | some other =>
            rw [offered] at shown
            exact .subprotocols authorized (offered.trans shown)
        | none =>
            rw [offered] at shown
            by_cases allowed : policy.allowQueryToken = true
            · simp only [allowed, if_true, Option.map_eq_some_iff] at shown
              obtain ⟨token, given, rfl⟩ := shown
              exact .query authorized offered allowed given
            · simp [allowed] at shown
  · intro shows
    cases shows with
    | authorization read => rw [read]
    | subprotocols silent read => rw [silent, read]
    | query silent unoffered allowed given =>
        rw [silent, unoffered, allowed, given]
        rfl

namespace HandshakePolicy

/-- The gateway's secret is known here, and the request shows it. -/
def Trusts (policy : HandshakePolicy) (request : Http.Request) : Prop :=
  ∃ expected presented, policy.trustedProxySecret = some expected ∧
    request.header? Identity.secretHeaderName = some presented ∧
    Digest.ofText presented = Digest.ofText expected

/-- No gateway is expected, or none shows itself, and the client speaks for itself. -/
def Undecided (policy : HandshakePolicy) (request : Http.Request) : Prop :=
  policy.trustedProxySecret = none ∨ request.header? Identity.secretHeaderName = none

/-- On whose word the client is the identity. -/
inductive Vouches (policy : HandshakePolicy) (tokens : TokenTable) (now : Nat)
    (request : Http.Request) (params : SocketParams) (identity : Identity) : Prop where
  | gateway {value : String} (trusts : policy.Trusts request)
      (forwarded : request.header? Identity.headerName = some value)
      (decoded : Identity.ofHeader value = .ok identity)
  | credential {credential : Credential}
      (undecided : policy.Undecided request)
      (shows : policy.Shows request params credential)
      (valid : tokens.validate now credential = .ok identity)

variable {policy : HandshakePolicy} {tokens : TokenTable} {now : Nat} {request : Http.Request}
  {params : SocketParams} {identity : Identity}

theorem direct_eq_ok_iff : policy.direct tokens now request params = .ok identity ↔
    (∃ credential, policy.Shows request params credential ∧
      tokens.validate now credential = .ok identity) ∧ identity.Reads := by
  rw [direct]
  have shows := Credential.ofRequest_eq_some_iff policy request params
  cases shown : Credential.ofRequest policy.allowQueryToken request params with
  | none =>
      refine ⟨fun known => (by cases known), ?_⟩
      rintro ⟨⟨credential, shows', -⟩, -⟩
      cases shown.symm.trans ((shows credential).2 shows')
  | some credential =>
      refine Identity.bind_reader_eq_ok_iff.trans (and_congr_left fun _ => ?_)
      constructor
      · intro valid
        exact ⟨credential, (shows credential).1 shown, valid⟩
      · rintro ⟨other, shows', valid⟩
        cases shown.symm.trans ((shows other).2 shows')
        exact valid

theorem forwarded_eq_ok_iff {expected presented : String} :
    forwarded expected presented request = .ok identity ↔
      (Digest.ofText presented = Digest.ofText expected ∧
        ∃ value, request.header? Identity.headerName = some value ∧
          Identity.ofHeader value = .ok identity) ∧ identity.Reads := by
  rw [forwarded]
  by_cases trusted : secretsMatch presented expected = true
  · have digests := secretsMatch_iff.1 trusted
    rw [if_pos trusted]
    cases carried : request.header? Identity.headerName with
    | none =>
        refine ⟨fun known => (by cases known), ?_⟩
        rintro ⟨⟨-, value, found, -⟩, -⟩
        cases found
    | some value =>
        refine Identity.bind_reader_eq_ok_iff.trans (and_congr_left fun _ => ?_)
        constructor
        · intro decoded
          exact ⟨digests, value, rfl, decoded⟩
        · rintro ⟨-, other, found, decoded⟩
          cases found
          exact decoded
  · rw [if_neg trusted]
    refine ⟨fun known => (by cases known), ?_⟩
    rintro ⟨⟨digests, -⟩, -⟩
    exact absurd (secretsMatch_iff.2 digests) trusted

theorem authenticate_of_undecided (undecided : policy.Undecided request) :
    policy.authenticate tokens now request params =
      policy.direct tokens now request params := by
  rw [authenticate]
  rcases undecided with unconfigured | unshown
  · rw [unconfigured]
  · rw [unshown]
    cases policy.trustedProxySecret <;> rfl

theorem authenticate_of_shown {expected presented : String}
    (configured : policy.trustedProxySecret = some expected)
    (shown : request.header? Identity.secretHeaderName = some presented) :
    policy.authenticate tokens now request params = forwarded expected presented request := by
  rw [authenticate, configured, shown]

theorem undecided_or_shown (policy : HandshakePolicy) (request : Http.Request) :
    policy.Undecided request ∨ ∃ expected presented,
      policy.trustedProxySecret = some expected ∧
        request.header? Identity.secretHeaderName = some presented := by
  cases configured : policy.trustedProxySecret with
  | none => exact .inl (.inl configured)
  | some expected =>
      cases shown : request.header? Identity.secretHeaderName with
      | none => exact .inl (.inr shown)
      | some presented => exact .inr ⟨expected, presented, rfl, rfl⟩

theorem Trusts.not_undecided (trusts : policy.Trusts request) : ¬policy.Undecided request := by
  obtain ⟨expected, presented, configured, shown, -⟩ := trusts
  rintro (unconfigured | unshown)
  · cases configured.symm.trans unconfigured
  · cases shown.symm.trans unshown

/-- A handshake is let through for exactly the identities that somebody vouches for and that may
read events. -/
theorem authenticate_eq_ok_iff :
    policy.authenticate tokens now request params = .ok identity ↔
      policy.Vouches tokens now request params identity ∧ identity.Reads := by
  rcases policy.undecided_or_shown request with undecided | ⟨expected, presented, configured, shown⟩
  · rw [authenticate_of_undecided undecided, direct_eq_ok_iff]
    refine and_congr_left fun _ => ⟨?_, fun vouches => ?_⟩
    · rintro ⟨credential, shows, valid⟩
      exact .credential undecided shows valid
    · cases vouches with
      | gateway trusts carried decoded => exact absurd undecided trusts.not_undecided
      | credential undecided shows valid => exact ⟨_, shows, valid⟩
  · rw [authenticate_of_shown configured shown, forwarded_eq_ok_iff]
    refine and_congr_left fun _ => ⟨?_, fun vouches => ?_⟩
    · rintro ⟨digests, value, carried, decoded⟩
      exact .gateway ⟨expected, presented, configured, shown, digests⟩ carried decoded
    · cases vouches with
      | gateway trusts carried decoded =>
          obtain ⟨_, _, configured', shown', digests⟩ := trusts
          cases configured.symm.trans configured'
          cases shown.symm.trans shown'
          exact ⟨digests, _, carried, decoded⟩
      | credential undecided shows valid =>
          rcases undecided with unconfigured | unshown
          · cases configured.symm.trans unconfigured
          · cases shown.symm.trans unshown

/-! Two requests that differ in the forwarded identity alone. -/

variable {left right : Http.Request}

theorem direct_eq_of_sameBut (same : left.SameBut Identity.headerName right)
    (params : SocketParams) :
    policy.direct tokens now left params = policy.direct tokens now right params := by
  have authorization := same.header? "authorization" (by decide)
  have subprotocols := same.header? "sec-websocket-protocol" (by decide)
  rw [direct, direct, Credential.ofRequest, Credential.ofRequest, authorization, subprotocols]

/-- Without the secret the forwarded identity is not even looked at. -/
theorem authenticate_eq_of_sameBut (same : left.SameBut Identity.headerName right)
    (distrusts : ¬policy.Trusts left) (params : SocketParams) :
    policy.authenticate tokens now left params = policy.authenticate tokens now right params := by
  have secret := same.header? Identity.secretHeaderName (by decide)
  rcases policy.undecided_or_shown left with undecided | ⟨expected, presented, configured, shown⟩
  · have undecidedToo : policy.Undecided right := by
      rw [Undecided, ← secret]
      exact undecided
    rw [authenticate_of_undecided undecided, authenticate_of_undecided undecidedToo,
      direct_eq_of_sameBut same]
  · have mismatch : ¬secretsMatch presented expected = true := fun trusted =>
      distrusts ⟨expected, presented, configured, shown, secretsMatch_iff.1 trusted⟩
    rw [authenticate_of_shown configured shown, authenticate_of_shown configured (secret ▸ shown),
      forwarded, forwarded, if_neg mismatch, if_neg mismatch]

theorem verdict_eq_of_sameBut (same : left.SameBut Identity.headerName right)
    (distrusts : ¬policy.Trusts left) :
    policy.verdict tokens now left = policy.verdict tokens now right := by
  have authenticated (params : SocketParams) : policy.authenticate tokens now left params =
      policy.authenticate tokens now right params :=
    authenticate_eq_of_sameBut same distrusts params
  have upgrade : left.upgradeProblem? = right.upgradeProblem? :=
    same.upgradeProblem? (by decide)
  simp only [verdict, same.query, authenticated, upgrade]

end HandshakePolicy

end EventHub
