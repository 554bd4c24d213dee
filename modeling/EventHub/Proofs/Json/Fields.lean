import EventHub.Proofs.Json.Nesting

/-!
What a decoder finds in a record. Written members are read back as fields, and a tag in front of
them apart from the rest; whatever the record, its fields are among its members.
-/

namespace EventHub.Json

theorem keysUnique_iff (members : List (String × Json)) :
    keysUnique members = true ↔ (members.map Prod.fst).Nodup := by
  induction members with
  | nil => exact ⟨fun _ => List.nodup_nil, fun _ => rfl⟩
  | cons member rest ih =>
      rw [keysUnique, Bool.and_eq_true, ih, List.map_cons, List.nodup_cons]
      refine and_congr_left fun _ => ?_
      simp only [Bool.not_eq_true', List.any_eq_false, beq_iff_eq, List.mem_map, not_exists,
        not_and]

theorem knownMembers?_named (known : List String) (members : List (String × Json)) :
    knownMembers? known (members.map fun member => (some member.1, member.2)) =
      some (members.filter fun member => known.contains member.1) := by
  induction members with
  | nil => rfl
  | cons member rest ih =>
      rw [List.map_cons, knownMembers?, ih, List.filter_cons]
      rfl

theorem fields?_record {known : List String} {members : List (String × Json)}
    (unique : (members.map Prod.fst).Nodup) (listed : ∀ member ∈ members, member.1 ∈ known) :
    (record members).fields? known = some members := by
  have all : members.filter (fun member => known.contains member.1) = members :=
    List.filter_eq_self.2 fun member there => List.contains_iff_mem.2 (listed member there)
  rw [record, fields?, knownMembers?_named, all]
  exact if_pos ((keysUnique_iff members).2 unique)

theorem mem_of_knownMembers? {known : List String} {members : List (Option String × Json)}
    {fields : Fields Json} (decoded : knownMembers? known members = some fields)
    {field : String × Json} (member : field ∈ fields) : (some field.1, field.2) ∈ members := by
  induction members generalizing fields with
  | nil =>
      cases decoded
      cases member
  | cons first rest ih =>
      obtain ⟨_ | key, value⟩ := first
      · cases decoded
      · obtain ⟨later, decodedLater, rfl⟩ := Option.map_eq_some_iff.1 decoded
        split at member
        · rcases List.mem_cons.1 member with rfl | member
          · exact List.mem_cons_self
          · exact List.mem_cons_of_mem _ (ih decodedLater member)
        · exact List.mem_cons_of_mem _ (ih decodedLater member)

/-- A field lies one container deeper than its record. -/
theorem readable_of_fields? {known : List String} {json : Json} {fields : Fields Json}
    {field : String × Json} {depth : Nat} (decoded : json.fields? known = some fields)
    (readable : json.readable (depth + 1) = true) (member : field ∈ fields) :
    field.2.readable depth = true := by
  cases json with
  | object members =>
      rw [readable_object_iff] at readable
      rw [fields?] at decoded
      split at decoded
      · rename_i known decodedMembers
        split at decoded
        · cases decoded
          exact (readable _ (mem_of_knownMembers? decodedMembers member)).2
        · cases decoded
      · cases decoded
  | array items =>
      rw [readable_array_iff] at readable
      rw [fields?] at decoded
      split at decoded
      · cases decoded
        exact readable _ (List.of_mem_zip member).2
      · cases decoded
  | _ => cases decoded

theorem ignored?_record (members : List (String × Json)) : (record members).ignored? = some () :=
  rfl

theorem tagMembers?_named (members : List (String × Json)) :
    tagMembers? (members.map fun member => (some member.1, member.2)) =
      some ((members.filter (·.1 == "type")).map Prod.snd,
        (members.filter (·.1 != "type")).map fun member => (some member.1, member.2)) := by
  induction members with
  | nil => rfl
  | cons member rest ih =>
      rw [List.map_cons, tagMembers?, ih]
      by_cases tag : member.1 = "type" <;> simp [tag]

/-- A record that starts with its tag is the tag and the record of the other members. -/
theorem tagged?_record {tag : String} {members : List (String × Json)}
    (untagged : ∀ member ∈ members, member.1 ≠ "type")
    (readable : ∀ member ∈ members, member.2.readable (depthLimit - 1) = true) :
    (record (("type", text tag) :: members)).tagged? = some (tag, record members) := by
  have whole : (record (("type", text tag) :: members)).readable depthLimit = true :=
    readable_record_iff.2 (List.forall_mem_cons.2 ⟨rfl, readable⟩)
  have none : members.filter (·.1 == "type") = [] :=
    List.filter_eq_nil_iff.2 fun member there tag => untagged member there (beq_iff_eq.1 tag)
  have all : members.filter (·.1 != "type") = members :=
    List.filter_eq_self.2 fun member there => bne_iff_ne.2 (untagged member there)
  rw [record] at whole ⊢
  rw [tagged?, if_pos whole, List.map_cons, tagMembers?, tagMembers?_named, none, all]
  rfl

/-- A text under `type` in front leaves a value no other tag. -/
theorem eq_of_tagged? {tag other : String} {content : Json} {members : List (Option String × Json)}
    (tagged : (object ((some "type", text tag) :: members)).tagged? = some (other, content)) :
    other = tag := by
  rw [tagged?] at tagged
  split at tagged
  · rw [tagMembers?] at tagged
    cases rest : tagMembers? members with
    | none =>
        rw [rest] at tagged
        cases tagged
    | some split =>
        obtain ⟨_ | ⟨second, tags⟩, content⟩ := split
        · rw [rest] at tagged
          cases tagged
          rfl
        · rw [rest] at tagged
          cases tagged
  · cases tagged

end EventHub.Json
