import EventHub.NameSet
import EventHub.Proofs.Json.Nesting

/-!
The canonical form of a value: the members of an object stand in the order of their names, each
name once. Taking it again changes nothing, and it nests no deeper than the value it is taken of.
-/

namespace EventHub.Json

/-- The members stand under these names, in this order. -/
def Named (members : List (Option String × Json)) (names : List String) : Prop :=
  members.map Prod.fst = names.map some

theorem named_cons_iff {member : Option String × Json} {members : List (Option String × Json)}
    {name : String} {names : List String} :
    Named (member :: members) (name :: names) ↔ member.1 = some name ∧ Named members names := by
  rw [Named, List.map_cons, List.map_cons, List.cons_eq_cons]
  rfl

theorem mem_setMember {key : String} {value : Json} {members : List (Option String × Json)}
    {member : Option String × Json} (found : member ∈ setMember key value members) :
    member = (some key, value) ∨ member ∈ members := by
  induction members with
  | nil => exact .inl (List.mem_singleton.1 found)
  | cons first rest ih =>
      obtain ⟨_ | name, old⟩ := first
      · rw [setMember, List.mem_cons] at found
        rcases found with rfl | found
        · exact .inr List.mem_cons_self
        · exact (ih found).imp_right (List.mem_cons_of_mem _)
      · rw [setMember] at found
        split at found
        · exact List.mem_cons.1 found
        · split at found
          · rcases List.mem_cons.1 found with rfl | found
            · exact .inr List.mem_cons_self
            · exact (ih found).imp_right (List.mem_cons_of_mem _)
          · exact (List.mem_cons.1 found).imp_right (List.mem_cons_of_mem _)

theorem named_setMember {key : String} {value : Json} {members : List (Option String × Json)}
    {names : List String} (named : Named members names) :
    Named (setMember key value members) (NameSet.insertName key names) := by
  induction members generalizing names with
  | nil =>
      cases names with
      | nil => rfl
      | cons name names => cases named
  | cons first rest ih =>
      cases names with
      | nil => cases named
      | cons name names =>
          obtain ⟨_, old⟩ := first
          obtain ⟨rfl, later⟩ := named_cons_iff.1 named
          rw [setMember, NameSet.insertName]
          split
          · exact named_cons_iff.2 ⟨rfl, named⟩
          · split
            · exact named_cons_iff.2 ⟨rfl, ih later⟩
            · rename_i notLess notGreater
              have same : key = name :=
                String.le_antisymm (String.not_lt.1 notGreater) (String.not_lt.1 notLess)
              exact named_cons_iff.2 ⟨congrArg some same, later⟩

theorem setMember_append {key : String} {value : Json} {members : List (Option String × Json)}
    {names : List String} (named : Named members names) (last : ∀ name ∈ names, name < key) :
    setMember key value members = members ++ [(some key, value)] := by
  induction members generalizing names with
  | nil => rfl
  | cons first rest ih =>
      cases names with
      | nil => cases named
      | cons name names =>
          obtain ⟨_, old⟩ := first
          obtain ⟨rfl, later⟩ := named_cons_iff.1 named
          rw [List.forall_mem_cons] at last
          rw [setMember, if_neg (String.lt_asymm last.1), if_pos last.1, ih later last.2]
          rfl

theorem canonicalItems_eq (items : List Json) : canonicalItems items = items.map canonical := by
  induction items with
  | nil => rfl
  | cons item rest ih => rw [canonicalItems, ih, List.map_cons]

theorem mem_canonicalMembers {sorted members : List (Option String × Json)}
    {member : Option String × Json} (found : member ∈ canonicalMembers sorted members) :
    member ∈ sorted ∨ ∃ source ∈ members, member = (source.1, source.2.canonical) := by
  induction members generalizing sorted with
  | nil => exact .inl found
  | cons first rest ih =>
      obtain ⟨_ | key, value⟩ := first
      · refine (ih found).imp_right ?_
        rintro ⟨source, later, rfl⟩
        exact ⟨source, List.mem_cons_of_mem _ later, rfl⟩
      · rcases ih found with set | ⟨source, later, rfl⟩
        · refine (mem_setMember set).symm.imp_right ?_
          rintro rfl
          exact ⟨_, List.mem_cons_self, rfl⟩
        · exact .inr ⟨source, List.mem_cons_of_mem _ later, rfl⟩

theorem named_canonicalMembers (members : List (Option String × Json))
    {sorted : List (Option String × Json)} {names : NameSet} (named : Named sorted names.names) :
    ∃ all : NameSet, Named (canonicalMembers sorted members) all.names := by
  induction members generalizing sorted names with
  | nil => exact ⟨names, named⟩
  | cons first rest ih =>
      obtain ⟨_ | key, value⟩ := first
      · exact ih named
      · have set : Named (setMember key value.canonical sorted) (names.insert key).names :=
          named_setMember named
        exact ih set

/-- Members that are in order already stay where they are. -/
theorem canonicalMembers_of_named {sorted members : List (Option String × Json)}
    {before names : List String} (namedBefore : Named sorted before) (named : Named members names)
    (ordered : (before ++ names).Pairwise (· < ·))
    (fixed : ∀ member ∈ members, member.2.canonical = member.2) :
    canonicalMembers sorted members = sorted ++ members := by
  induction members generalizing sorted before names with
  | nil => exact (List.append_nil _).symm
  | cons first rest ih =>
      cases names with
      | nil => cases named
      | cons name names =>
          obtain ⟨_, value⟩ := first
          obtain ⟨rfl, later⟩ := named_cons_iff.1 named
          rw [List.forall_mem_cons] at fixed
          -- What is sorted already comes before all that is left.
          have last : ∀ other ∈ before, other < name := fun other mem =>
            (List.pairwise_append.1 ordered).2.2 other mem name List.mem_cons_self
          have namedSet : Named (sorted ++ [(some name, value)]) (before ++ [name]) := by
            rw [Named, List.map_append, List.map_append, namedBefore]
            rfl
          rw [List.append_cons] at ordered
          rw [canonicalMembers, fixed.1, setMember_append namedBefore last,
            ih namedSet later ordered fixed.2, List.append_assoc]
          rfl

theorem canonical_canonical (json : Json) : json.canonical.canonical = json.canonical := by
  induction json using inductionOn with
  | array items ih =>
      simp only [canonical, canonicalItems_eq, List.map_map]
      exact congrArg array (List.map_congr_left ih)
  | object members ih =>
      obtain ⟨names, named⟩ := named_canonicalMembers members
        (show Named [] (NameSet.empty).names from rfl)
      have fixed : ∀ member ∈ canonicalMembers [] members, member.2.canonical = member.2 := by
        intro member found
        rcases mem_canonicalMembers found with nowhere | ⟨source, mem, rfl⟩
        · cases nowhere
        · exact ih source mem
      simp only [canonical]
      exact congrArg object
        (canonicalMembers_of_named (show Named [] [] from rfl) named names.ordered fixed)
  | _ => rfl

theorem readable_canonical {json : Json} {depth : Nat} (readable : json.readable depth = true) :
    json.canonical.readable depth = true := by
  induction json using inductionOn generalizing depth with
  | array items ih =>
      obtain ⟨room, rfl, parts⟩ := room_of_readable_array readable
      rw [canonical, canonicalItems_eq, readable_array_iff, List.forall_mem_map]
      exact fun item member => ih item member (parts item member)
  | object members ih =>
      obtain ⟨room, rfl, parts⟩ := room_of_readable_object readable
      rw [canonical, readable_object_iff]
      intro member found
      rcases mem_canonicalMembers found with nowhere | ⟨source, mem, rfl⟩
      · cases nowhere
      · exact ⟨(parts source mem).1, ih source mem (parts source mem).2⟩
  | unreadable => cases readable
  | _ => exact readable

/-- The value of a text, for a decoder that has to know all of it. -/
def decode? (text : String) : Option Json :=
  (parse? text).bind fun json => if json.readable depthLimit then some json.canonical else none

/-- What is readable and shows all of itself is decoded from its written form. -/
theorem decode?_print {json : Json} (readable : json.readable depthLimit = true)
    (exact : json.exact = true) : decode? json.print = some json.canonical := by
  rw [decode?, parse?_print exact, Option.bind_some, if_pos readable]

end EventHub.Json
