import EventHub.Auth.Identity
import EventHub.Proofs.Json.Fields

/-!
An identity as a header value. The value is read back as the identity, and what characters it is
made of depends on the names in the identity alone.
-/

namespace EventHub

namespace NameSet

theorem insertName_append {name : String} {names : List String}
    (after : ∀ other ∈ names, other < name) : insertName name names = names ++ [name] := by
  induction names with
  | nil => rfl
  | cons first rest ih =>
      have less := after first List.mem_cons_self
      rw [insertName, if_neg (String.lt_asymm less), if_pos less,
        ih fun other member => after other (List.mem_cons_of_mem first member)]
      rfl

theorem names_foldl_insert {names : List String} {set : NameSet}
    (ordered : (set.names ++ names).Pairwise (· < ·)) :
    (names.foldl insert set).names = set.names ++ names := by
  induction names generalizing set with
  | nil => exact (List.append_nil _).symm
  | cons name rest ih =>
      have inserted : (set.insert name).names = set.names ++ [name] :=
        insertName_append fun other member =>
          (List.pairwise_append.1 ordered).2.2 other member name List.mem_cons_self
      rw [List.append_cons] at ordered
      rw [List.foldl_cons, ih (inserted.symm ▸ ordered), inserted, List.append_assoc]
      rfl

@[simp] theorem ofList_names (set : NameSet) : ofList set.names = set := by
  apply ext_names
  exact names_foldl_insert set.ordered

end NameSet

namespace Json

@[simp] theorem texts?_texts (values : List String) : (texts values).texts? = some values := by
  simp only [texts?, texts, items?, Option.bind_some]
  induction values with
  | nil => rfl
  | cons value rest ih => simp [text?, ih]

theorem exact_texts (values : List String) : (texts values).exact = true := by
  rw [texts, exact, exactItems_eq, List.all_eq_true, List.forall_mem_map]
  exact fun _ _ => rfl

end Json

namespace Json

/-- How a text is written in JSON has a property, character by character. -/
def Spells (P : Char → Prop) (text : String) : Prop :=
  ∀ char ∈ text.toList, ∀ written ∈ escapeChar char, P written

variable {P : Char → Prop}

section Printing

-- All that the printer adds to the texts in a value is visible.
variable (visible : ∀ char, ' ' ≤ char → char ≤ '~' → P char)

include visible

theorem spells_of_visible (text : String)
    (plain : (text.toList.all fun char =>
      (escapeChar char).all fun written => ' ' ≤ written && written ≤ '~') = true) :
    Spells P text := by
  intro char member written writes
  have bounds := List.all_eq_true.1 (List.all_eq_true.1 plain char member) written writes
  simp only [Bool.and_eq_true, decide_eq_true_eq] at bounds
  exact visible written bounds.1 bounds.2

theorem forall_mem_quote (name : String) :
    (∀ char ∈ quote name.toList, P char) ↔ Spells P name := by
  have mark : P '"' := visible '"' (by decide) (by decide)
  simp only [quote, List.forall_mem_append, List.forall_mem_cons, List.forall_mem_flatMap]
  simp [mark, Spells]

theorem forall_mem_itemChars (items : List Json) :
    (∀ char ∈ itemChars items, P char) ↔ ∀ item ∈ items, ∀ char ∈ item.chars, P char := by
  induction items with
  | nil =>
      have close : P ']' := visible ']' (by decide) (by decide)
      simpa [itemChars] using close
  | cons item rest ih =>
      rw [List.forall_mem_cons, ← ih]
      cases rest with
      | nil =>
          rw [itemChars, itemChars, List.forall_mem_append]
      | cons next rest =>
          have comma : P ',' := visible ',' (by decide) (by decide)
          rw [itemChars, List.forall_mem_append, List.forall_mem_cons]
          · rw [and_iff_right comma]
          · simp

theorem forall_mem_memberChars (members : List (Option String × Json)) :
    (∀ char ∈ memberChars members, P char) ↔ ∀ member ∈ members,
      Spells P (member.1.getD "") ∧ ∀ char ∈ member.2.chars, P char := by
  induction members with
  | nil =>
      have close : P '\x7d' := visible '\x7d' (by decide) (by decide)
      simpa [memberChars] using close
  | cons member rest ih =>
      obtain ⟨key, value⟩ := member
      have colon : P ':' := visible ':' (by decide) (by decide)
      rw [List.forall_mem_cons, ← ih, ← forall_mem_quote visible]
      cases rest with
      | nil =>
          rw [memberChars, memberChars, List.forall_mem_append, List.forall_mem_append,
            List.forall_mem_cons, and_iff_right colon]
      | cons next rest =>
          have comma : P ',' := visible ',' (by decide) (by decide)
          rw [memberChars, List.forall_mem_append, List.forall_mem_append, List.forall_mem_cons,
            List.forall_mem_cons]
          · rw [and_iff_right colon, and_iff_right comma]
          · simp

theorem forall_mem_text (name : String) :
    (∀ char ∈ (text name).chars, P char) ↔ Spells P name := by
  rw [chars, forall_mem_quote visible]

theorem forall_mem_texts (names : List String) :
    (∀ char ∈ (texts names).chars, P char) ↔ ∀ name ∈ names, Spells P name := by
  have bracket : P '[' := visible '[' (by decide) (by decide)
  rw [texts, chars, List.forall_mem_cons, forall_mem_itemChars visible, and_iff_right bracket,
    List.forall_mem_map]
  exact forall₂_congr fun name _ => forall_mem_text visible name

theorem forall_mem_record (members : List (String × Json)) :
    (∀ char ∈ (record members).chars, P char) ↔ ∀ member ∈ members,
      Spells P member.1 ∧ ∀ char ∈ member.2.chars, P char := by
  have brace : P '\x7b' := visible '\x7b' (by decide) (by decide)
  rw [record, chars, List.forall_mem_cons, forall_mem_memberChars visible, and_iff_right brace,
    List.forall_mem_map]
  rfl

end Printing

end Json

/-- The clusters that a scope names. -/
def ClusterScope.names : ClusterScope → List String
  | all => []
  | only clusters => clusters.names

theorem ClusterScope.ofJson?_json (scope : ClusterScope) : ofJson? scope.json = some scope := by
  cases scope with
  | all => rfl
  | only clusters => simp [json, Json.record, ofJson?]

theorem ClusterScope.forall_mem_json {P : Char → Prop}
    (visible : ∀ char, ' ' ≤ char → char ≤ '~' → P char) (scope : ClusterScope) :
    (∀ char ∈ scope.json.chars, P char) ↔ ∀ name ∈ scope.names, Json.Spells P name := by
  have key (name : String) := Json.spells_of_visible visible name
  cases scope with
  | all =>
      simp [json, names, Json.forall_mem_text visible, key "all" (by decide)]
  | only clusters =>
      simp [json, names, Json.forall_mem_record visible, Json.forall_mem_texts visible,
        key "only" (by decide)]

namespace Identity

variable (identity : Identity)

theorem exact_json : identity.json.exact = true := by
  obtain ⟨subject, displayName, scopes, clusters⟩ := identity
  cases displayName <;> cases clusters <;>
    simp [json, ClusterScope.json, Json.record, Json.exact, Json.exactMembers, Json.exact_texts]

theorem ofJson?_json : ofJson? identity.json = some identity := by
  obtain ⟨subject, displayName, scopes, clusters⟩ := identity
  cases displayName <;>
    simp [ofJson?, json, Json.fields?_record, fieldNames, Fields.required?, Fields.default?,
      List.lookup_cons, Json.text?, Json.optional?, ClusterScope.ofJson?_json]

variable {identity} in
theorem ofHeader_eq_ok_iff {value : String} :
    ofHeader value = .ok identity ↔
      (Json.parse? value).bind ofJson? = some identity ∧ identity.subject ≠ "" := by
  rw [ofHeader]
  cases (Json.parse? value).bind ofJson? with
  | none => exact ⟨nofun, fun decoded => nomatch decoded.1⟩
  | some found =>
      by_cases named : found.subject = ""
      · simp only [named, if_true, reduceCtorEq, Option.some.injEq, false_iff, not_and,
          Classical.not_not]
        rintro rfl
        exact named
      · simp only [named, if_false, Except.ok.injEq, Option.some.injEq]
        exact ⟨fun same => ⟨same, same ▸ named⟩, And.left⟩

/-- A header value names exactly one identity. -/
theorem ofHeader_toHeader (named : identity.subject ≠ "") :
    ofHeader identity.toHeader = .ok identity := by
  rw [ofHeader_eq_ok_iff, toHeader, Json.parse?_print identity.exact_json, Option.bind_some]
  exact ⟨identity.ofJson?_json, named⟩

/-- An identity survives its header value, and whatever else a header may spell, the identity read
off it has a subject and survives being written once more. -/
theorem header_lossless :
    (∀ identity : Identity, identity.subject ≠ "" →
      ofHeader identity.toHeader = .ok identity) ∧
    ∀ value identity, ofHeader value = .ok identity →
      identity.subject ≠ "" ∧ ofHeader identity.toHeader = .ok identity := by
  refine ⟨ofHeader_toHeader, fun value identity decoded => ?_⟩
  have named := (ofHeader_eq_ok_iff.1 decoded).2
  exact ⟨named, identity.ofHeader_toHeader named⟩

/-- Quotes, backslashes and control characters survive, and so does what a header lists out of
order and twice. -/
theorem header_lossless_listed :
    let clerk : Identity :=
      { subject := "clerk \"north\"\n", displayName := some "\\ é\x7f",
        scopes := NameSet.ofList ["\t", ""], clusters := .only ∅ }
    let listed : String := "[\"ops\",null,[\"b\",\"a\",\"b\"],\x7b\"only\":[\"w\"]\x7d]"
    let ops : Identity :=
      { subject := "ops", scopes := NameSet.ofList ["a", "b"],
        clusters := .only (NameSet.ofList ["w"]) }
    clerk.subject ≠ "" ∧ ofHeader clerk.toHeader = .ok clerk ∧
      ofHeader listed = .ok ops ∧ ops.subject ≠ "" ∧ ofHeader ops.toHeader = .ok ops := by
  intro clerk listed ops
  have named : clerk.subject ≠ "" := by decide
  have decoded : ofHeader listed = .ok ops := ofHeader_eq_ok_iff.2 ⟨by decide, by decide⟩
  exact ⟨named, header_lossless.1 clerk named, decoded, header_lossless.2 listed ops decoded⟩

/-- Every name in an identity. -/
def names (identity : Identity) : List String :=
  identity.subject :: identity.displayName.toList ++ identity.scopes.names ++
    identity.clusters.names

theorem forall_mem_toHeader {P : Char → Prop}
    (visible : ∀ char, ' ' ≤ char → char ≤ '~' → P char) :
    (∀ char ∈ identity.toHeader.toList, P char) ↔ ∀ name ∈ identity.names, Json.Spells P name := by
  obtain ⟨subject, displayName, scopes, clusters⟩ := identity
  have key (name : String) := Json.spells_of_visible visible name
  rw [toHeader, Json.print, String.toList_ofList, json, Json.forall_mem_record visible]
  cases displayName <;>
    simp [names, or_imp, forall_and, Json.forall_mem_text visible, Json.forall_mem_texts visible,
      ClusterScope.forall_mem_json visible, key "subject" (by decide),
      key "display_name" (by decide), key "scopes" (by decide), key "clusters" (by decide)]

end Identity

end EventHub
