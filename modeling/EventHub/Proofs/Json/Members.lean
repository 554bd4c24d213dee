import Mathlib.Data.List.Count
import Mathlib.Data.List.Nodup
import EventHub.Proofs.Json.Fields
import EventHub.Table

/-!
What a decoder looks for among the members of an object. Where a member stands does not matter, and
members that it does not look for matter only in that they have to be readable.
-/

namespace EventHub.Json

variable {known : List String} {members : List (Option String × Json)}
  {named : List (String × Json)} {fields : Fields Json} {name : String} {value : Json}

/-- How often a name is there. -/
def occurrences (name : String) (members : List (Option String × Json)) : Nat :=
  (members.map Prod.fst).count (some name)

/-- An object whose names and values a decoder can read. -/
def WithinLimits (members : List (Option String × Json)) : Prop :=
  (object members).readable depthLimit = true

theorem withinLimits_iff :
    WithinLimits members ↔
      ∀ member ∈ members, member.1.isSome = true ∧ member.2.readable (depthLimit - 1) = true :=
  readable_object_iff

theorem exists_named (within : WithinLimits members) :
    ∃ named : List (String × Json),
      members = named.map fun member => (some member.1, member.2) := by
  induction members with
  | nil => exact ⟨[], rfl⟩
  | cons member rest ih =>
      obtain ⟨key, value⟩ := member
      rw [withinLimits_iff, List.forall_mem_cons] at within
      obtain ⟨name, rfl⟩ := Option.isSome_iff_exists.1 within.1.1
      obtain ⟨named, rfl⟩ := ih (withinLimits_iff.2 within.2)
      exact ⟨(name, value) :: named, rfl⟩

theorem occurrences_named (name : String) (named : List (String × Json)) :
    occurrences name (named.map fun member => (some member.1, member.2)) =
      (named.map Prod.fst).count name := by
  have injective : Function.Injective (some : String → Option String) :=
    fun _ _ => Option.some.inj
  rw [occurrences, List.map_map, ← List.count_map_of_injective _ some injective, List.map_map]
  rfl

theorem mem_named : (some name, value) ∈ (named.map fun member => (some member.1, member.2)) ↔
    (name, value) ∈ named := by
  simp

theorem eq_singleton_iff {α : Type} {items : List α} {item : α} :
    items = [item] ↔ items.length ≤ 1 ∧ item ∈ items := by
  match items with
  | [] => simp
  | [only] => simp [eq_comm]
  | _ :: _ :: _ => simp

theorem eq_of_occurrences_le_one {value' : Json} (once : occurrences name members ≤ 1)
    (there : (some name, value) ∈ members) (thereToo : (some name, value') ∈ members) :
    value = value' := by
  have short : (members.filter (·.1 == some name)).length ≤ 1 := by
    rw [occurrences, List.count_eq_length_filter, List.filter_map, List.length_map] at once
    exact once
  have listed {value : Json} (there : (some name, value) ∈ members) :
      (some name, value) ∈ members.filter (·.1 == some name) :=
    List.mem_filter.2 ⟨there, beq_self_eq_true _⟩
  have alone := eq_singleton_iff.2 ⟨short, listed there⟩
  have same := listed thereToo
  rw [alone, List.mem_singleton, Prod.mk.injEq] at same
  exact same.2.symm

/-- The tag is the only member under `type`, and the content is all the others. -/
theorem tagged?_named_iff {tag : String} {content : Json}
    (within : WithinLimits (named.map fun member => (some member.1, member.2))) :
    (record named).tagged? = some (tag, content) ↔
      (named.map Prod.fst).count "type" ≤ 1 ∧ ("type", text tag) ∈ named ∧
        content = record (named.filter (·.1 != "type")) := by
  have single : (named.filter (·.1 == "type")).map Prod.snd = [text tag] ↔
      (named.map Prod.fst).count "type" ≤ 1 ∧ ("type", text tag) ∈ named := by
    rw [eq_singleton_iff, List.length_map, List.count_eq_length_filter, List.filter_map,
      List.length_map]
    simp [Function.comp_def]
  rw [WithinLimits] at within
  rw [record, tagged?, if_pos within, ← and_assoc, ← single, tagMembers?_named]
  split
  · rename_i same
    rw [Option.some.injEq, Prod.mk.injEq] at same
    obtain ⟨same, rfl⟩ := same
    rw [same]
    simp [record, eq_comm]
  · rename_i other
    refine iff_of_false (fun impossible => by cases impossible) ?_
    rintro ⟨same, -⟩
    exact other tag _ (by rw [same])

theorem keysUnique_filter_iff :
    keysUnique (named.filter fun member => known.contains member.1) = true ↔
      ∀ name ∈ known, (named.map Prod.fst).count name ≤ 1 := by
  have keys : (named.filter fun member => known.contains member.1).map Prod.fst =
      (named.map Prod.fst).filter known.contains := by
    rw [List.filter_map]
    rfl
  rw [keysUnique_iff, keys, List.nodup_iff_count_le_one]
  refine ⟨fun once name listed => ?_, fun once name => ?_⟩
  · rw [← List.count_filter (List.contains_iff_mem.2 listed)]
    exact once name
  · by_cases listed : name ∈ known
    · rw [List.count_filter (List.contains_iff_mem.2 listed)]
      exact once name listed
    · have absent : name ∉ (named.map Prod.fst).filter known.contains := fun member =>
        listed (List.contains_iff_mem.1 (List.mem_filter.1 member).2)
      rw [List.count_eq_zero.2 absent]
      exact Nat.zero_le 1

/-- The fields are the members with known names, none of which may be there twice. -/
theorem fields?_named_iff :
    (record named).fields? known = some fields ↔
      (∀ name ∈ known, (named.map Prod.fst).count name ≤ 1) ∧
        fields = named.filter fun member => known.contains member.1 := by
  rw [record, fields?, knownMembers?_named, ← keysUnique_filter_iff]
  simp only [Option.ite_none_right_eq_some, Option.some.injEq]
  exact and_congr_right fun _ => eq_comm

theorem exists_fields?_named_iff {holds : Fields Json → Prop} :
    (∃ fields, (record named).fields? known = some fields ∧ holds fields) ↔
      (∀ name ∈ known, (named.map Prod.fst).count name ≤ 1) ∧
        holds (named.filter fun member => known.contains member.1) := by
  simp only [fields?_named_iff, and_assoc, exists_and_left, exists_eq_left]

theorem lookup_named_iff (once : ∀ name ∈ known, (named.map Prod.fst).count name ≤ 1)
    (listed : name ∈ known) :
    (named.filter fun member => known.contains member.1).lookup name = some value ↔
      (name, value) ∈ named := by
  have distinct := (keysUnique_iff _).1 (keysUnique_filter_iff.2 once)
  rw [Table.lookup_eq_some_iff distinct, List.mem_filter]
  exact and_iff_left (List.contains_iff_mem.2 listed)

theorem required?_named_iff {α : Type} {decode : Json → Option α} {result : α}
    (once : ∀ name ∈ known, (named.map Prod.fst).count name ≤ 1) (listed : name ∈ known) :
    Fields.required? (named.filter fun member => known.contains member.1) name decode =
        some result ↔
      ∃ value, (name, value) ∈ named ∧ decode value = some result := by
  simp only [Fields.required?, Option.bind_eq_some_iff, lookup_named_iff once listed]

theorem default?_named_iff {α : Type} {decode : Json → Option α} {default result : α}
    (once : ∀ name ∈ known, (named.map Prod.fst).count name ≤ 1) (listed : name ∈ known) :
    Fields.default? (named.filter fun member => known.contains member.1) name decode default =
        some result ↔
      (∃ value, (name, value) ∈ named ∧ decode value = some result) ∨
        default = result ∧ ∀ value, (name, value) ∉ named := by
  have found (value : Json) :
      (named.filter fun member => known.contains member.1).lookup name = some value ↔
        (name, value) ∈ named :=
    lookup_named_iff once listed
  rw [Fields.default?]
  split
  · rename_i value given
    have alone (other : Json) : (name, other) ∈ named ↔ other = value := by
      rw [← found, given, Option.some.injEq, eq_comm]
    simp [alone]
  · rename_i missing
    have absent (value : Json) : (name, value) ∉ named := by
      rw [← found, missing]
      nofun
    simp [absent]

/-! The members beside the tag. -/

theorem count_untagged (other : name ≠ "type") :
    ((named.filter (·.1 != "type")).map Prod.fst).count name = (named.map Prod.fst).count name := by
  have names : (named.filter (·.1 != "type")).map Prod.fst =
      (named.map Prod.fst).filter (· != "type") := by
    rw [List.filter_map]
    rfl
  rw [names]
  exact List.count_filter (by simpa using other)

theorem mem_untagged (other : name ≠ "type") :
    (name, value) ∈ named.filter (·.1 != "type") ↔ (name, value) ∈ named := by
  rw [List.mem_filter]
  exact and_iff_left (bne_iff_ne.2 other)

theorem text?_eq_some_iff {json : Json} {content : String} :
    json.text? = some content ↔ json = text content := by
  cases json <;> simp [text?]

theorem mapM_text?_eq_some_iff {items : List Json} {values : List String} :
    items.mapM text? = some values ↔ items = values.map text := by
  induction items generalizing values with
  | nil => cases values <;> simp
  | cons item rest ih =>
      rw [List.mapM_cons]
      simp only [Option.bind_eq_bind, Option.bind_eq_some_iff, text?_eq_some_iff, ih]
      constructor
      · rintro ⟨first, rfl, others, rfl, made⟩
        cases made
        rfl
      · intro written
        cases values with
        | nil => cases written
        | cons first others =>
            obtain ⟨rfl, rfl⟩ := List.cons_eq_cons.1 written
            exact ⟨first, rfl, others, rfl, rfl⟩

theorem texts?_eq_some_iff {json : Json} {values : List String} :
    json.texts? = some values ↔ json = texts values := by
  rw [texts?]
  cases json with
  | array items => simp [items?, mapM_text?_eq_some_iff, texts]
  | _ => simp [items?, texts]

end EventHub.Json
