import EventHub.Auth.TokenTable
import EventHub.Proofs.Text.Trim
import Mathlib.Data.Finmap

/-!
Histories of the token table. As long as no two tokens in play have the same digest, the table
refines one map from tokens to records, and what the map holds for a token is told by the last
operation that was about it.
-/

namespace EventHub

/-- The last item that decides a question affirms it. -/
def LastAffirms {α : Type} (decides affirms : α → Prop) (items : List α) : Prop :=
  ∃ before item after, items = before ++ item :: after ∧ affirms item ∧
    ∀ other ∈ after, ¬decides other

section LastAffirms

variable {α : Type} {decides affirms : α → Prop}

theorem not_lastAffirms_nil : ¬LastAffirms decides affirms [] := by
  rintro ⟨before, item, after, items_eq, -, -⟩
  exact List.append_ne_nil_of_right_ne_nil before (List.cons_ne_nil item after) items_eq.symm

theorem lastAffirms_concat {items : List α} {item : α} :
    LastAffirms decides affirms (items ++ [item]) ↔
      affirms item ∨ ¬decides item ∧ LastAffirms decides affirms items := by
  constructor
  · rintro ⟨before, found, after, items_eq, yes, silent⟩
    rcases List.eq_nil_or_concat after with rfl | ⟨rest, last, rfl⟩
    · obtain ⟨-, same⟩ := List.append_inj' items_eq rfl
      cases same
      exact .inl yes
    · rw [List.concat_eq_append] at items_eq silent
      rw [← List.cons_append, ← List.append_assoc] at items_eq
      obtain ⟨rest_eq, same⟩ := List.append_inj' items_eq rfl
      cases same
      rw [List.forall_mem_append] at silent
      exact .inr ⟨silent.2 item List.mem_cons_self, before, found, rest, rest_eq, yes, silent.1⟩
  · rintro (yes | ⟨silent, before, found, after, rfl, yes, silentAfter⟩)
    · exact ⟨items, item, [], rfl, yes, fun _ member => nomatch member⟩
    · refine ⟨before, found, after ++ [item], by simp, yes, ?_⟩
      rw [List.forall_mem_append, List.forall_mem_singleton]
      exact ⟨silentAfter, silent⟩

theorem lastAffirms_singleton {item : α} : LastAffirms decides affirms [item] ↔ affirms item := by
  rw [← List.nil_append [item], lastAffirms_concat]
  simp only [not_lastAffirms_nil, and_false, or_false]

theorem LastAffirms.imp {other : α → Prop} {items : List α}
    (last : LastAffirms decides affirms items) (implies : ∀ item, affirms item → other item) :
    LastAffirms decides other items := by
  obtain ⟨before, item, after, items_eq, yes, silent⟩ := last
  exact ⟨before, item, after, items_eq, implies item yes, silent⟩

end LastAffirms

namespace TokenEntry

def record (entry : TokenEntry) : TokenRecord where
  identity := entry.identity
  expiresAt := entry.expiresAt

/-! What an entry allows is what is written in it. -/

theorem foldl_withScope_eq (scopes : List String) (identity : Identity) :
    scopes.foldl Identity.withScope identity =
      { identity with scopes := scopes.foldl NameSet.insert identity.scopes } := by
  induction scopes generalizing identity with
  | nil => rfl
  | cons first rest ih => rw [List.foldl_cons, ih]; rfl

/-- An identity that may do what an entry lists and nothing else. -/
structure Grants (entry : TokenEntry) (identity : Identity) : Prop where
  subject : identity.subject = entry.subject
  scope : ∀ scope, identity.hasScope scope = true ↔
    scope ∈ entry.scopes ∨ Identity.adminScope ∈ entry.scopes
  cluster : ∀ cluster, identity.clusters.allows cluster = true ↔
    entry.clusters = [] ∨ cluster ∈ entry.clusters

theorem scopes_identity (entry : TokenEntry) :
    entry.identity.scopes = NameSet.ofList entry.scopes := by
  rw [identity, foldl_withScope_eq]
  split <;> rfl

theorem grants_identity (entry : TokenEntry) : entry.Grants entry.identity where
  subject := by
    rw [identity, foldl_withScope_eq]
    split <;> rfl
  scope := by
    intro scope
    rw [Identity.hasScope, Bool.or_eq_true, NameSet.contains_iff, NameSet.contains_iff,
      scopes_identity, NameSet.mem_ofList, NameSet.mem_ofList]
  cluster := by
    intro cluster
    rw [identity, foldl_withScope_eq]
    cases entry.clusters with
    | nil => simp [ClusterScope.allows]
    | cons first rest =>
        simp [ClusterScope.allows, Identity.withClusters, NameSet.contains_iff]

end TokenEntry

/-- The identity and the expiry of every token that is registered. -/
abbrev TokenMap : Type :=
  Finmap fun _ : String => TokenRecord

namespace TokenTable

inductive Operation where
  | insert (token : String) (identity : Identity) (expiresAt : Option UInt64)
  | revoke (token : String)
  | load (entries : List TokenEntry)
  deriving DecidableEq

def Accepts (token : String) (identity : Identity) : Prop :=
  ¬Text.Blank token.toList ∧ identity.subject ≠ ""

instance (token : String) (identity : Identity) : Decidable (Accepts token identity) :=
  inferInstanceAs (Decidable (¬_ ∧ _ ≠ _))

def AcceptsAll (entries : List TokenEntry) : Prop :=
  ∀ entry ∈ entries, Accepts entry.token entry.identity

instance (entries : List TokenEntry) : Decidable (AcceptsAll entries) :=
  List.decidableBAll (fun entry : TokenEntry => Accepts entry.token entry.identity) entries

namespace Operation

def tokens : Operation → List String
  | insert token _ _ => [token]
  | revoke token => [token]
  | load entries => entries.map (·.token)

/-- An operation after which nothing earlier matters to a token. -/
def Decides (token : String) : Operation → Prop
  | insert other identity _ => other = token ∧ Accepts other identity
  | revoke other => other = token
  | load entries => AcceptsAll entries

/-- An operation that leaves a token with a record. -/
def Stores (token : String) (record : TokenRecord) : Operation → Prop
  | insert other identity expiresAt =>
      other = token ∧ Accepts other identity ∧ { identity, expiresAt } = record
  | revoke _ => False
  | load entries => AcceptsAll entries ∧
      LastAffirms (fun entry => entry.token = token)
        (fun entry => entry.token = token ∧ entry.record = record) entries

end Operation

/-- A refused operation leaves the table as it is; loading starts from nothing. -/
def apply (table : TokenTable) (operation : Operation) : TokenTable :=
  match operation with
  | .insert token identity expiresAt =>
      match table.insert token identity expiresAt with
      | .ok next => next
      | .error _ => table
  | .revoke token => (table.revoke token).1
  | .load entries =>
      match ofEntries entries with
      | .ok next => next
      | .error _ => table

/-- The table that a sequence of operations leaves of an empty one. -/
def run (operations : List Operation) : TokenTable :=
  operations.foldl apply ∅

end TokenTable

namespace TokenMap

def ofEntries (entries : List TokenEntry) : TokenMap :=
  entries.foldl (fun map entry => map.insert entry.token entry.record) ∅

def apply (map : TokenMap) (operation : TokenTable.Operation) : TokenMap :=
  match operation with
  | .insert token identity expiresAt =>
      if TokenTable.Accepts token identity then map.insert token { identity, expiresAt } else map
  | .revoke token => map.erase token
  | .load entries => if TokenTable.AcceptsAll entries then ofEntries entries else map

/-- The map that a sequence of operations leaves of an empty one. -/
def run (operations : List TokenTable.Operation) : TokenMap :=
  operations.foldl apply ∅

theorem lookup_insert_eq_some {map : TokenMap} {token other : String}
    {record stored : TokenRecord} :
    (Finmap.insert token record map).lookup other = some stored ↔
      token = other ∧ record = stored ∨ token ≠ other ∧ map.lookup other = some stored := by
  by_cases same : token = other
  · subst same
    simp
  · rw [Finmap.lookup_insert_of_ne map (Ne.symm same)]
    simp [same]

theorem lookup_ofEntries {entries : List TokenEntry} {token : String} {record : TokenRecord} :
    (ofEntries entries).lookup token = some record ↔
      LastAffirms (fun entry => entry.token = token)
        (fun entry => entry.token = token ∧ entry.record = record) entries := by
  induction entries using List.reverseRecOn with
  | nil => simp [ofEntries, not_lastAffirms_nil]
  | append_singleton entries entry ih =>
      rw [lastAffirms_concat, ← ih, ofEntries, List.foldl_concat, lookup_insert_eq_some]
      rfl

theorem lookup_apply {map : TokenMap} {operation : TokenTable.Operation} {token : String}
    {record : TokenRecord} :
    (map.apply operation).lookup token = some record ↔
      operation.Stores token record ∨
        ¬operation.Decides token ∧ map.lookup token = some record := by
  cases operation with
  | insert other identity expiresAt =>
      rw [apply, TokenTable.Operation.Stores, TokenTable.Operation.Decides]
      split
      · rename_i accepted
        rw [lookup_insert_eq_some]
        simp [accepted]
      · rename_i refused
        simp [refused]
  | revoke other =>
      rw [apply, TokenTable.Operation.Stores, TokenTable.Operation.Decides]
      by_cases same : token = other
      · subst same
        simp
      · rw [Finmap.lookup_erase_ne same]
        simp [Ne.symm same]
  | load entries =>
      rw [apply, TokenTable.Operation.Stores, TokenTable.Operation.Decides]
      split
      · rename_i accepted
        rw [lookup_ofEntries]
        simp [accepted]
      · rename_i refused
        simp [refused]

/-- A token has the record of the last operation that was about it. -/
theorem lookup_run {operations : List TokenTable.Operation} {token : String}
    {record : TokenRecord} :
    (run operations).lookup token = some record ↔
      LastAffirms (TokenTable.Operation.Decides token)
        (TokenTable.Operation.Stores token record) operations := by
  induction operations using List.reverseRecOn with
  | nil => simp [run, not_lastAffirms_nil]
  | append_singleton operations operation ih =>
      rw [lastAffirms_concat, ← ih, run, List.foldl_concat, lookup_apply]
      rfl

end TokenMap

namespace TokenTable

variable {tokens : Set String} {table : TokenTable} {map : TokenMap}

theorem insert_of_blank (table : TokenTable) {token : String} (blank : Text.Blank token.toList)
    (identity : Identity) (expiresAt : Option UInt64) :
    table.insert token identity expiresAt = .error (.invalidInput "token cannot be empty") :=
  if_pos (Text.trim_eq_nil.2 blank)

theorem insert_of_no_subject (table : TokenTable) {token : String}
    (shown : ¬Text.Blank token.toList) {identity : Identity} (anonymous : identity.subject = "")
    (expiresAt : Option UInt64) :
    table.insert token identity expiresAt =
      .error (.invalidInput "subject cannot be empty") := by
  rw [insert, if_neg (mt Text.trim_eq_nil.1 shown), if_pos anonymous]

theorem insert_of_accepts (table : TokenTable) {token : String} {identity : Identity}
    (accepts : Accepts token identity) (expiresAt : Option UInt64) :
    table.insert token identity expiresAt =
      .ok ⟨table.records.insert (Digest.ofText token) { identity, expiresAt }⟩ := by
  rw [insert, if_neg (mt Text.trim_eq_nil.1 accepts.1), if_neg accepts.2]

theorem insert_of_not_accepts (table : TokenTable) {token : String} {identity : Identity}
    (refuses : ¬Accepts token identity) (expiresAt : Option UInt64) :
    ∃ cause, table.insert token identity expiresAt = .error cause := by
  by_cases blank : Text.Blank token.toList
  · exact ⟨_, table.insert_of_blank blank identity expiresAt⟩
  · by_cases anonymous : identity.subject = ""
    · exact ⟨_, table.insert_of_no_subject blank anonymous expiresAt⟩
    · exact absurd ⟨blank, anonymous⟩ refuses

theorem insert_eq_ok_iff {token : String} {identity : Identity} {expiresAt : Option UInt64} :
    (∃ next, table.insert token identity expiresAt = .ok next) ↔ Accepts token identity := by
  constructor
  · rintro ⟨next, inserted⟩
    by_contra refuses
    obtain ⟨cause, failed⟩ := table.insert_of_not_accepts refuses expiresAt
    rw [failed] at inserted
    cases inserted
  · intro accepts
    exact ⟨_, table.insert_of_accepts accepts expiresAt⟩

def store (table : TokenTable) (entry : TokenEntry) : TokenTable :=
  ⟨table.records.insert (Digest.ofText entry.token) entry.record⟩

theorem foldlM_insertEntry_accepted {entries : List TokenEntry} (accepted : AcceptsAll entries)
    (table : TokenTable) :
    entries.foldlM insertEntry table = .ok (entries.foldl store table) := by
  induction entries generalizing table with
  | nil => rfl
  | cons entry rest ih =>
      rw [AcceptsAll, List.forall_mem_cons] at accepted
      rw [List.foldlM_cons, insertEntry, table.insert_of_accepts accepted.1]
      exact ih accepted.2 (table.store entry)

theorem foldlM_insertEntry_refused {entries : List TokenEntry} (refused : ¬AcceptsAll entries)
    (table : TokenTable) : ∃ cause, entries.foldlM insertEntry table = .error cause := by
  induction entries generalizing table with
  | nil => exact absurd (fun _ member => nomatch member) refused
  | cons entry rest ih =>
      rw [List.foldlM_cons, insertEntry]
      by_cases accepts : Accepts entry.token entry.identity
      · rw [table.insert_of_accepts accepts]
        exact ih (fun accepted => refused (List.forall_mem_cons.2 ⟨accepts, accepted⟩)) _
      · obtain ⟨cause, failed⟩ := table.insert_of_not_accepts accepts entry.expiresAt
        rw [failed]
        exact ⟨cause, rfl⟩

/-- The records of a table are those of a map, under the digests of its tokens. -/
structure Refines (tokens : Set String) (table : TokenTable) (map : TokenMap) : Prop where
  stored : ∀ token ∈ tokens, table.records.get? (Digest.ofText token) = map.lookup token
  named : ∀ digest record, table.records.get? digest = some record →
    ∃ token ∈ map, Digest.ofText token = digest
  known : ∀ token ∈ map, token ∈ tokens

theorem refines_empty (tokens : Set String) : Refines tokens ∅ ∅ where
  stored := by
    intro token _
    rw [Finmap.lookup_empty]
    rfl
  named := fun _ _ found => nomatch found
  known := fun _ member => absurd member Finmap.notMem_empty

section Refinement

variable (apart : Set.InjOn Digest.ofText tokens)

include apart

theorem Refines.insert (refines : table.Refines tokens map) {token : String}
    (member : token ∈ tokens) (record : TokenRecord) :
    Refines tokens ⟨table.records.insert (Digest.ofText token) record⟩
      (map.insert token record) where
  stored := by
    intro other known
    rw [Table.get?_insert]
    by_cases same : other = token
    · subst same
      simp
    · rw [Finmap.lookup_insert_of_ne map same, if_neg (apart.ne known member same)]
      exact refines.stored other known
  named := by
    intro digest stored found
    rw [Table.get?_insert] at found
    split at found
    · rename_i same
      exact ⟨token, Finmap.mem_insert.2 (.inl rfl), same.symm⟩
    · obtain ⟨owner, owned, names⟩ := refines.named digest stored found
      exact ⟨owner, Finmap.mem_insert.2 (.inr owned), names⟩
  known := by
    intro other held
    rcases Finmap.mem_insert.1 held with rfl | held
    · exact member
    · exact refines.known other held

theorem Refines.erase (refines : table.Refines tokens map) {token : String}
    (member : token ∈ tokens) :
    Refines tokens ⟨table.records.erase (Digest.ofText token)⟩ (map.erase token) where
  stored := by
    intro other known
    rw [Table.get?_erase]
    by_cases same : other = token
    · subst same
      simp
    · rw [Finmap.lookup_erase_ne same, if_neg (apart.ne known member same)]
      exact refines.stored other known
  named := by
    intro digest stored found
    rw [Table.get?_erase] at found
    split at found
    · cases found
    · rename_i other
      obtain ⟨owner, owned, names⟩ := refines.named digest stored found
      have differs : owner ≠ token := fun same => other (by rw [← names, same])
      exact ⟨owner, Finmap.mem_erase.2 ⟨differs, owned⟩, names⟩
  known := fun other held => refines.known other (Finmap.mem_erase.1 held).2

theorem Refines.foldl_store (refines : table.Refines tokens map) {entries : List TokenEntry}
    (known : ∀ entry ∈ entries, entry.token ∈ tokens) :
    (entries.foldl store table).Refines tokens
      (entries.foldl (fun map entry => map.insert entry.token entry.record) map) := by
  induction entries generalizing table map with
  | nil => exact refines
  | cons entry rest ih =>
      rw [List.forall_mem_cons] at known
      exact ih (refines.insert apart known.1 entry.record) known.2

theorem Refines.size_eq (refines : table.Refines tokens map) : table.size = map.keys.card := by
  have keys_eq : table.records.keys.toFinset = map.keys.image Digest.ofText := by
    ext digest
    rw [List.mem_toFinset, Finset.mem_image, Table.keys, List.mem_map]
    constructor
    · rintro ⟨⟨_, record⟩, stored, rfl⟩
      obtain ⟨token, held, names⟩ := refines.named _ record (Table.get?_eq_some_iff.2 stored)
      exact ⟨token, Finmap.mem_keys.2 held, names⟩
    · rintro ⟨token, held, rfl⟩
      have inMap := Finmap.mem_keys.1 held
      obtain ⟨record, found⟩ := Finmap.mem_iff.1 inMap
      rw [← refines.stored token (refines.known token inMap)] at found
      exact ⟨_, Table.get?_eq_some_iff.1 found, rfl⟩
  calc table.size = table.records.keys.toFinset.card := by
        rw [Table.keys, List.toFinset_card_of_nodup table.records.distinct, List.length_map]
        rfl
    _ = map.keys.card := by
        rw [keys_eq, Finset.card_image_of_injOn]
        exact apart.mono fun token held => refines.known token (Finmap.mem_keys.1 held)

end Refinement

theorem Refines.apply (refines : table.Refines tokens map)
    (apart : Set.InjOn Digest.ofText tokens) {operation : Operation}
    (known : ∀ token ∈ operation.tokens, token ∈ tokens) :
    (table.apply operation).Refines tokens (map.apply operation) := by
  cases operation with
  | insert token identity expiresAt =>
      have member := known token List.mem_cons_self
      rw [TokenTable.apply, TokenMap.apply]
      by_cases accepts : Accepts token identity
      · rw [table.insert_of_accepts accepts, if_pos accepts]
        exact refines.insert apart member _
      · obtain ⟨cause, failed⟩ := table.insert_of_not_accepts accepts expiresAt
        rw [failed, if_neg accepts]
        exact refines
  | revoke token => exact refines.erase apart (known token List.mem_cons_self)
  | load entries =>
      rw [TokenTable.apply, TokenMap.apply]
      by_cases accepted : AcceptsAll entries
      · rw [ofEntries, foldlM_insertEntry_accepted accepted, if_pos accepted]
        exact (refines_empty tokens).foldl_store apart
          fun entry member => known entry.token (List.mem_map_of_mem member)
      · obtain ⟨cause, failed⟩ := foldlM_insertEntry_refused accepted empty
        rw [ofEntries, failed, if_neg accepted]
        exact refines

theorem refines_run (apart : Set.InjOn Digest.ofText tokens) {operations : List Operation}
    (known : ∀ operation ∈ operations, ∀ token ∈ operation.tokens, token ∈ tokens) :
    (run operations).Refines tokens (TokenMap.run operations) := by
  induction operations using List.reverseRecOn with
  | nil => exact refines_empty tokens
  | append_singleton operations operation ih =>
      rw [List.forall_mem_append] at known
      rw [run, TokenMap.run, List.foldl_concat, List.foldl_concat]
      exact (ih known.1).apply apart (known.2 operation List.mem_cons_self)

/-- What the map decides about the answers of a table. -/
structure AnswersBy (tokens : Set String) (table : TokenTable) (map : TokenMap) : Prop where
  missing : ∀ token ∈ tokens, token ∉ map → ∀ now,
    table.validate now ⟨token⟩ = .error .invalidCredential
  expired : ∀ token ∈ tokens, ∀ record time, map.lookup token = some record →
    record.expiresAt = some time → ∀ now, time.toNat ≤ now →
    table.validate now ⟨token⟩ = .error .expired
  current : ∀ token ∈ tokens, ∀ record, map.lookup token = some record → ∀ now,
    (∀ time, record.expiresAt = some time → now < time.toNat) →
    table.validate now ⟨token⟩ = .ok record.identity
  blankRefused : ∀ token identity expiresAt, Text.Blank token.toList →
    table.insert token identity expiresAt = .error (.invalidInput "token cannot be empty") ∧
      table.apply (.insert token identity expiresAt) = table
  subjectRefused : ∀ token identity expiresAt, identity.subject = "" →
    (∃ cause, table.insert token identity expiresAt = .error cause) ∧
      table.apply (.insert token identity expiresAt) = table
  inserted : ∀ token identity expiresAt, ¬Text.Blank token.toList → identity.subject ≠ "" →
    table.insert token identity expiresAt =
      .ok (table.apply (.insert token identity expiresAt))
  loaded : ∀ entries, (∀ entry ∈ entries, ∃ next, table.insertEntry entry = .ok next) →
    ofEntries entries = .ok (table.apply (.load entries))
  loadRefused : ∀ entries, ∀ entry ∈ entries, ∀ cause, table.insertEntry entry = .error cause →
    (∃ cause, ofEntries entries = .error cause) ∧ table.apply (.load entries) = table
  revoked : ∀ token ∈ tokens, table.revoke token =
    (table.apply (.revoke token), decide (token ∈ map))
  size : table.size = map.keys.card

theorem Refines.answersBy (refines : table.Refines tokens map)
    (apart : Set.InjOn Digest.ofText tokens) : table.AnswersBy tokens map where
  missing := by
    intro token member absent now
    rw [validate, refines.stored token member, Finmap.lookup_eq_none.2 absent]
  expired := by
    intro token member record time found expires now past
    rw [validate, refines.stored token member, found]
    simp only [expires]
    exact if_pos past
  current := by
    intro token member record found now future
    rw [validate, refines.stored token member, found]
    cases expires : record.expiresAt with
    | none => simp only [expires]
    | some time =>
        simp only [expires]
        exact if_neg (Nat.not_le.2 (future time expires))
  blankRefused := by
    intro token identity expiresAt blank
    have refused := table.insert_of_blank blank identity expiresAt
    exact ⟨refused, by rw [TokenTable.apply, refused]⟩
  subjectRefused := by
    intro token identity expiresAt anonymous
    have unaccepted : ¬Accepts token identity := fun accepts => accepts.2 anonymous
    obtain ⟨cause, refused⟩ := table.insert_of_not_accepts unaccepted expiresAt
    exact ⟨⟨cause, refused⟩, by rw [TokenTable.apply, refused]⟩
  inserted := by
    intro token identity expiresAt shown named
    rw [TokenTable.apply, table.insert_of_accepts ⟨shown, named⟩]
  loaded := by
    intro entries succeeds
    have accepted : AcceptsAll entries := fun entry member =>
      insert_eq_ok_iff.1 (succeeds entry member)
    rw [TokenTable.apply, ofEntries, foldlM_insertEntry_accepted accepted]
  loadRefused := by
    intro entries entry member cause failed
    have refused : ¬AcceptsAll entries := by
      intro accepted
      rw [insertEntry, table.insert_of_accepts (accepted entry member)] at failed
      cases failed
    obtain ⟨first, refusal⟩ := foldlM_insertEntry_refused refused empty
    exact ⟨⟨first, refusal⟩, by rw [TokenTable.apply, ofEntries, refusal]⟩
  revoked := by
    intro token member
    rw [revoke, Table.contains, refines.stored token member]
    exact congrArg (Prod.mk _) (Bool.eq_iff_iff.2 (by simp [Finmap.lookup_isSome]))
  size := refines.size_eq apart

theorem Refines.lookup_of_validate (refines : table.Refines tokens map) {token : String}
    (member : token ∈ tokens) {now : Nat} {identity : Identity}
    (valid : table.validate now ⟨token⟩ = .ok identity) :
    ∃ record, map.lookup token = some record ∧ record.identity = identity := by
  rw [validate, refines.stored token member] at valid
  cases found : map.lookup token with
  | none =>
      rw [found] at valid
      cases valid
  | some record =>
      refine ⟨record, rfl, ?_⟩
      rw [found] at valid
      cases expires : record.expiresAt with
      | none =>
          simp only [expires] at valid
          exact Except.ok.inj valid
      | some time =>
          simp only [expires] at valid
          split at valid
          · cases valid
          · exact Except.ok.inj valid

/-- What a loaded table vouches for is granted by the last entry for the token. -/
theorem grants_of_ofEntries (apart : Set.InjOn Digest.ofText tokens)
    {entries : List TokenEntry} (known : ∀ entry ∈ entries, entry.token ∈ tokens)
    (loaded : ofEntries entries = .ok table) {token : String} (member : token ∈ tokens)
    {now : Nat} {identity : Identity} (valid : table.validate now ⟨token⟩ = .ok identity) :
    LastAffirms (fun entry => entry.token = token)
      (fun entry => entry.token = token ∧ entry.Grants identity) entries := by
  have accepted : AcceptsAll entries := by
    by_contra refused
    obtain ⟨cause, failed⟩ := foldlM_insertEntry_refused refused empty
    rw [ofEntries, failed] at loaded
    cases loaded
  rw [ofEntries, foldlM_insertEntry_accepted accepted] at loaded
  cases loaded
  have refines := (refines_empty tokens).foldl_store apart known
  obtain ⟨record, found, rfl⟩ := refines.lookup_of_validate member valid
  refine (TokenMap.lookup_ofEntries.1 found).imp ?_
  rintro entry ⟨names, rfl⟩
  exact ⟨names, entry.grants_identity⟩

/-- However tokens are registered, loaded and revoked, one map from tokens to records decides every
answer of the table, and the map is told by the history: a token has the record of the last
operation about it that succeeded. -/
theorem run_refines_history (apart : Set.InjOn Digest.ofText tokens) {operations : List Operation}
    (known : ∀ operation ∈ operations, ∀ token ∈ operation.tokens, token ∈ tokens) :
    (run operations).AnswersBy tokens (TokenMap.run operations) ∧
      (∀ token record, (TokenMap.run operations).lookup token = some record ↔
        LastAffirms (Operation.Decides token) (Operation.Stores token record) operations) ∧
      ∀ entries table, (∀ entry ∈ entries, entry.token ∈ tokens) →
        ofEntries entries = .ok table → ∀ token ∈ tokens, ∀ now identity,
        table.validate now ⟨token⟩ = .ok identity →
        LastAffirms (fun entry => entry.token = token)
          (fun entry => entry.token = token ∧ entry.Grants identity) entries :=
  ⟨(refines_run apart known).answersBy apart, fun _ _ => TokenMap.lookup_run,
    fun _ _ entriesKnown loaded _ member _ _ valid =>
      grants_of_ofEntries apart entriesKnown loaded member valid⟩

/-- One token is loaded from an entry, a second one is added for a while and the first withdrawn. -/
def rotation : List Operation :=
  [.load [{ token := "first-token", subject := "dashboard", scopes := [Identity.adminScope] }],
    .insert "second-token" { subject := "dashboard" } (some 7), .revoke "first-token"]

theorem rotation_refines_history :
    Set.InjOn Digest.ofText {"first-token", "second-token"} ∧
      (∀ operation ∈ rotation, ∀ token ∈ operation.tokens,
        token ∈ ({"first-token", "second-token"} : Set String)) ∧
      (run rotation).AnswersBy {"first-token", "second-token"} (TokenMap.run rotation) ∧
      (TokenMap.run rotation).lookup "first-token" = none := by
  have differ : Digest.ofText "first-token" ≠ Digest.ofText "second-token" := by decide +kernel
  have apart : Set.InjOn Digest.ofText {"first-token", "second-token"} := by
    rintro left (rfl | rfl) right (rfl | rfl) same
    · rfl
    · exact absurd same differ
    · exact absurd same.symm differ
    · rfl
  have known : ∀ operation ∈ rotation, ∀ token ∈ operation.tokens,
      token ∈ ({"first-token", "second-token"} : Set String) := by
    simp [rotation, Operation.tokens]
  refine ⟨apart, known, (run_refines_history apart known).1, ?_⟩
  simp [rotation, TokenMap.run, TokenMap.apply]

end TokenTable

end EventHub
