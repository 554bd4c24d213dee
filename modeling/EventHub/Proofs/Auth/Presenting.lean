import EventHub.Proofs.Auth.TokenHistory

/-!
A token that is shown in an `Authorization` header. What the header carries is trimmed and what the
table stores is not, so the tokens that can be shown are those with no blank at their ends.
-/

namespace EventHub

namespace Credential

/-- The header value with which a client shows a token. -/
def bearer (token : String) : String :=
  "Bearer " ++ token

/-- The token that is read from the header value. -/
def shownAs (token : String) : String :=
  String.ofList (Text.trim token.toList)

theorem shownAs_eq_self {token : String} (trimmed : Text.trim token.toList = token.toList) :
    shownAs token = token := by
  rw [shownAs, trimmed, String.ofList_toList]

theorem shownAs_ne_self {token : String} (padded : Text.trim token.toList ≠ token.toList) :
    shownAs token ≠ token := by
  intro same
  refine padded ?_
  rw [← String.toList_ofList (l := Text.trim token.toList)]
  exact congrArg String.toList same

theorem trim_bearer (text : List Char) :
    Text.trim ("Bearer ".toList ++ text) =
      if Text.Blank text then "Bearer".toList else "Bearer ".toList ++ Text.trimEnd text := by
  have start : Text.trimStart ("Bearer ".toList ++ text) = "Bearer ".toList ++ text :=
    Text.trimStart_of_head _ (by decide)
  rw [Text.trim, start, Text.trimEnd_append]
  simp only [Text.trimEnd_eq_nil]
  rfl

theorem ofAuthorization_bearer {token : String} (shown : ¬Text.Blank token.toList) :
    ofAuthorization (bearer token) = some ⟨shownAs token⟩ := by
  have parts : Text.splitFirst ' ' ("Bearer ".toList ++ Text.trimEnd token.toList) =
      some ("Bearer".toList, Text.trimEnd token.toList) :=
    Text.splitFirst_eq_some.2 ⟨rfl, by decide⟩
  have isMarker : isMarker "Bearer".toList = true := by decide
  rw [ofAuthorization, bearer, String.toList_append, ofAuthorizationChars, trim_bearer,
    if_neg shown, parts]
  simp only [isMarker, if_true, Text.trim_trimEnd]
  exact if_neg (mt Text.trim_eq_nil.1 shown)

end Credential

namespace TokenTable

variable {tokens : Set String} {token : String}

/-- What a client is answered that shows a token; nothing if the header shows none. -/
def present (table : TokenTable) (now : Nat) (token : String) :
    Option (Except AuthError Identity) :=
  (Credential.ofAuthorization (Credential.bearer token)).map (table.validate now)

theorem present_eq (shown : ¬Text.Blank token.toList) (table : TokenTable) (now : Nat) :
    table.present now token = some (table.validate now ⟨Credential.shownAs token⟩) := by
  rw [present, Credential.ofAuthorization_bearer shown]
  rfl

/-- A token that is stored under another name than it is read by is of no use to a client. -/
theorem present_insert_of_padded {table next : TokenTable} {identity : Identity}
    {expiresAt : Option UInt64}
    (apart : Digest.ofText (Credential.shownAs token) ≠ Digest.ofText token)
    (inserted : table.insert token identity expiresAt = .ok next) (now : Nat) :
    next.present now token = table.present now token := by
  have accepts : Accepts token identity := insert_eq_ok_iff.1 ⟨next, inserted⟩
  rw [table.insert_of_accepts accepts] at inserted
  cases inserted
  rw [present_eq accepts.1, present_eq accepts.1, validate, validate, Table.get?_insert,
    if_neg apart]

theorem present_run_of_trimmed (apart : Set.InjOn Digest.ofText tokens) (member : token ∈ tokens)
    (trimmed : Text.trim token.toList = token.toList) (shown : ¬Text.Blank token.toList)
    {operations : List Operation}
    (known : ∀ operation ∈ operations, ∀ other ∈ operation.tokens, other ∈ tokens)
    {record : TokenRecord}
    (stored : LastAffirms (Operation.Decides token) (Operation.Stores token record) operations)
    {now : Nat} (valid : ∀ time, record.expiresAt = some time → now < time.toNat) :
    (run operations).present now token = some (.ok record.identity) := by
  have answers := (refines_run apart known).answersBy apart
  rw [present_eq shown, Credential.shownAs_eq_self trimmed,
    answers.current token member record (TokenMap.lookup_run.2 stored) now valid]

/-- A token that the table accepts can be shown by its owner, whatever happens to other tokens, if
and only if it has no blank at either end. One that has is accepted and cannot be shown. -/
theorem presentable_iff (apart : Set.InjOn Digest.ofText tokens) (member : token ∈ tokens)
    (shownMember : Credential.shownAs token ∈ tokens) (shown : ¬Text.Blank token.toList) :
    ((∀ operations : List Operation,
        (∀ operation ∈ operations, ∀ other ∈ operation.tokens, other ∈ tokens) →
        ∀ record, LastAffirms (Operation.Decides token) (Operation.Stores token record)
          operations →
        ∀ now, (∀ time, record.expiresAt = some time → now < time.toNat) →
        (run operations).present now token = some (.ok record.identity)) ↔
      Text.trim token.toList = token.toList) ∧
    (Text.trim token.toList ≠ token.toList → ∀ table identity expiresAt next,
      insert table token identity expiresAt = .ok next →
      ∀ now, next.present now token = table.present now token) := by
  have unusable (padded : Text.trim token.toList ≠ token.toList) :
      Digest.ofText (Credential.shownAs token) ≠ Digest.ofText token :=
    apart.ne shownMember member (Credential.shownAs_ne_self padded)
  refine ⟨⟨?_, ?_⟩, ?_⟩
  · intro usable
    by_contra padded
    have accepts : Accepts token { subject := "owner" } := ⟨shown, by decide⟩
    have known : ∀ operation ∈ [Operation.insert token { subject := "owner" } none],
        ∀ other ∈ operation.tokens, other ∈ tokens := by
      simpa [Operation.tokens] using member
    have stored : LastAffirms (Operation.Decides token)
        (Operation.Stores token { identity := { subject := "owner" }, expiresAt := none })
        [Operation.insert token { subject := "owner" } none] :=
      lastAffirms_singleton.2 ⟨rfl, accepts, rfl⟩
    have answered := usable _ known _ stored 0 fun time expires => by
      cases expires
    have inserted := insert_of_accepts ∅ accepts none
    have unchanged := present_insert_of_padded (unusable padded) inserted 0
    rw [run, List.foldl_cons, List.foldl_nil, apply, inserted, unchanged, present_eq shown]
      at answered
    cases answered
  · intro trimmed operations known record stored now valid
    exact present_run_of_trimmed apart member trimmed shown known stored valid
  · intro padded table identity expiresAt next inserted now
    exact present_insert_of_padded (unusable padded) inserted now

theorem presentable_iff_plain :
    (∀ operation ∈ [Operation.insert "first-token" { subject := "dashboard" } (some 7)],
      ∀ other ∈ operation.tokens, other ∈ ({"first-token"} : Set String)) ∧
    (run [.insert "first-token" { subject := "dashboard" } (some 7)]).present 6 "first-token" =
      some (.ok { subject := "dashboard" }) := by
  have known : ∀ operation ∈ [Operation.insert "first-token" { subject := "dashboard" } (some 7)],
      ∀ other ∈ operation.tokens, other ∈ ({"first-token"} : Set String) := by
    simp [Operation.tokens]
  have trimmed : Text.trim "first-token".toList = "first-token".toList := by decide
  have apart : Set.InjOn Digest.ofText {"first-token"} := Set.injOn_singleton _ _
  have presentable := presentable_iff apart (Set.mem_singleton _)
    (Credential.shownAs_eq_self trimmed) (by decide)
  refine ⟨known, presentable.1.2 trimmed _ known ⟨{ subject := "dashboard" }, some 7⟩ ?_ 6 ?_⟩
  · exact lastAffirms_singleton.2 ⟨rfl, by decide, rfl⟩
  · rintro time expires
    cases expires
    decide

theorem padded_not_presentable :
    ∃ next, insert ∅ " padded-token" { subject := "dashboard" } none = .ok next ∧
      next.present 0 " padded-token" = some (.error .invalidCredential) := by
  have accepts : Accepts " padded-token" { subject := "dashboard" } := by decide
  have apart : Digest.ofText (Credential.shownAs " padded-token") ≠
      Digest.ofText " padded-token" := by
    decide +kernel
  have inserted := insert_of_accepts ∅ accepts none
  refine ⟨_, inserted, ?_⟩
  rw [present_insert_of_padded apart inserted 0, present_eq accepts.1]
  rfl

end TokenTable

end EventHub
