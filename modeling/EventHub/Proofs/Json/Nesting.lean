import EventHub.Json.Decoder
import EventHub.Proofs.Json.RoundTrip

/-!
What may stand in a value, and how deep. Facts about all values follow the one induction over
their parts; a readable value stays readable under a higher limit, and if it has no doubles its
written form shows all of it.
-/

namespace EventHub.Json

/-- A property of all values follows from what it asks of their parts. -/
@[elab_as_elim]
theorem inductionOn {motive : Json → Prop} (json : Json) (null : motive null)
    (bool : ∀ value, motive (bool value)) (number : ∀ value, motive (number value))
    (text : ∀ value, motive (text value)) (unreadable : motive unreadable)
    (array : ∀ items, (∀ item ∈ items, motive item) → motive (array items))
    (object : ∀ members, (∀ member ∈ members, motive member.2) → motive (object members)) :
    motive json :=
  @Json.rec motive (fun items => ∀ item ∈ items, motive item)
    (fun members => ∀ member ∈ members, motive member.2) (fun member => motive member.2)
    null bool number text unreadable array object (List.forall_mem_nil _)
    (fun _ _ first rest => List.forall_mem_cons.2 ⟨first, rest⟩) (List.forall_mem_nil _)
    (fun _ _ first rest => List.forall_mem_cons.2 ⟨first, rest⟩) (fun _ _ value => value) json

@[simp] theorem readableItems_eq (depth : Nat) (items : List Json) :
    readableItems depth items = items.all (readable depth) := by
  induction items with
  | nil => rfl
  | cons item rest ih => rw [readableItems, ih, List.all_cons]

@[simp] theorem readableMembers_eq (depth : Nat) (members : List (Option String × Json)) :
    readableMembers depth members =
      members.all fun member => member.1.isSome && member.2.readable depth := by
  induction members with
  | nil => rfl
  | cons member rest ih => rw [readableMembers, ih, List.all_cons]

theorem readable_array_iff {depth : Nat} {items : List Json} :
    (array items).readable (depth + 1) = true ↔ ∀ item ∈ items, item.readable depth = true := by
  rw [readable, readableItems_eq, List.all_eq_true]

theorem readable_object_iff {depth : Nat} {members : List (Option String × Json)} :
    (object members).readable (depth + 1) = true ↔
      ∀ member ∈ members, member.1.isSome = true ∧ member.2.readable depth = true := by
  simp only [readable, readableMembers_eq, List.all_eq_true, Bool.and_eq_true]

/-- A container that is readable leaves its parts a level less. -/
theorem room_of_readable_array {depth : Nat} {items : List Json}
    (readable : (array items).readable depth = true) :
    ∃ room, depth = room + 1 ∧ ∀ item ∈ items, item.readable room = true := by
  cases depth with
  | zero => cases readable
  | succ room => exact ⟨room, rfl, readable_array_iff.1 readable⟩

theorem room_of_readable_object {depth : Nat} {members : List (Option String × Json)}
    (readable : (object members).readable depth = true) :
    ∃ room, depth = room + 1 ∧
      ∀ member ∈ members, member.1.isSome = true ∧ member.2.readable room = true := by
  cases depth with
  | zero => cases readable
  | succ room => exact ⟨room, rfl, readable_object_iff.1 readable⟩

theorem readable_record_iff {depth : Nat} {members : List (String × Json)} :
    (record members).readable (depth + 1) = true ↔
      ∀ member ∈ members, member.2.readable depth = true := by
  rw [record, readable_object_iff, List.forall_mem_map]
  simp

theorem readable_natural (depth : Nat) (value : UInt64) : (natural value).readable depth = true :=
  rfl

theorem readable_texts {depth : Nat} (room : 0 < depth) (values : List String) :
    (texts values).readable depth = true := by
  obtain ⟨depth, rfl⟩ := Nat.exists_eq_add_one.2 room
  rw [texts, readable_array_iff, List.forall_mem_map]
  exact fun _ _ => rfl

theorem readable_mono {json : Json} {depth limit : Nat} (within : depth ≤ limit)
    (readable : json.readable depth = true) : json.readable limit = true := by
  induction json using inductionOn generalizing depth limit with
  | array items ih =>
      obtain ⟨room, rfl, parts⟩ := room_of_readable_array readable
      obtain ⟨more, rfl⟩ := Nat.exists_eq_add_one.2 (Nat.lt_of_lt_of_le room.succ_pos within)
      have wider : room ≤ more := Nat.le_of_succ_le_succ within
      exact readable_array_iff.2 fun item member => ih item member wider (parts item member)
  | object members ih =>
      obtain ⟨room, rfl, parts⟩ := room_of_readable_object readable
      obtain ⟨more, rfl⟩ := Nat.exists_eq_add_one.2 (Nat.lt_of_lt_of_le room.succ_pos within)
      have wider : room ≤ more := Nat.le_of_succ_le_succ within
      exact readable_object_iff.2 fun member mem =>
        ⟨(parts member mem).1, ih member mem wider (parts member mem).2⟩
  | unreadable => cases readable
  | _ => rfl

/-! A value is integral when no number in it is a double. -/

mutual

def integral : Json → Bool
  | null | bool _ | text _ | unreadable => true
  | number value => value.isInteger
  | array items => integralItems items
  | object members => integralMembers members

def integralItems : List Json → Bool
  | [] => true
  | item :: rest => item.integral && integralItems rest

def integralMembers : List (Option String × Json) → Bool
  | [] => true
  | (_, value) :: rest => value.integral && integralMembers rest

end

theorem integralItems_eq (items : List Json) : integralItems items = items.all integral := by
  induction items with
  | nil => rfl
  | cons item rest ih => rw [integralItems, ih, List.all_cons]

theorem integralMembers_eq (members : List (Option String × Json)) :
    integralMembers members = members.all fun member => member.2.integral := by
  induction members with
  | nil => rfl
  | cons member rest ih => rw [integralMembers, ih, List.all_cons]

theorem exactItems_eq (items : List Json) : exactItems items = items.all exact := by
  induction items with
  | nil => rfl
  | cons item rest ih => rw [exactItems, ih, List.all_cons]

theorem exactMembers_eq (members : List (Option String × Json)) :
    exactMembers members = members.all fun member => member.1.isSome && member.2.exact := by
  induction members with
  | nil => rfl
  | cons member rest ih => rw [exactMembers, ih, List.all_cons]

theorem exact_of_readable {json : Json} {depth : Nat} (readable : json.readable depth = true)
    (integral : json.integral = true) : json.exact = true := by
  induction json using inductionOn generalizing depth with
  | number value => simpa only [Json.integral, exact] using integral
  | array items ih =>
      obtain ⟨room, rfl, parts⟩ := room_of_readable_array readable
      rw [Json.integral, integralItems_eq, List.all_eq_true] at integral
      rw [exact, exactItems_eq, List.all_eq_true]
      exact fun item member => ih item member (parts item member) (integral item member)
  | object members ih =>
      obtain ⟨room, rfl, parts⟩ := room_of_readable_object readable
      rw [Json.integral, integralMembers_eq, List.all_eq_true] at integral
      rw [exact, exactMembers_eq, List.all_eq_true]
      exact fun member mem => Bool.and_eq_true_iff.2 ⟨(parts member mem).1,
        ih member mem (parts member mem).2 (integral member mem)⟩
  | unreadable => cases readable
  | _ => rfl

end EventHub.Json
