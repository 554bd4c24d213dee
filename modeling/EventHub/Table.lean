/-!
Finite maps as lists of pairs with each key at most once. An update in place keeps the order
in which keys were first inserted, so a walk over the entries is deterministic.
-/

namespace EventHub

structure Table (κ α : Type) where
  entries : List (κ × α)
  distinct : (entries.map (·.1)).Nodup := by simp
  deriving DecidableEq

namespace Table

variable {κ α : Type} [DecidableEq κ]

def empty : Table κ α where
  entries := []

instance : EmptyCollection (Table κ α) := ⟨empty⟩

instance : Inhabited (Table κ α) := ⟨empty⟩

def get? (table : Table κ α) (key : κ) : Option α :=
  table.entries.lookup key

def contains (table : Table κ α) (key : κ) : Bool :=
  (table.get? key).isSome

def setEntry (key : κ) (value : α) : List (κ × α) → List (κ × α)
  | [] => [(key, value)]
  | (first, old) :: rest =>
      if first = key then (key, value) :: rest else (first, old) :: setEntry key value rest

theorem mem_map_setEntry {key : κ} {value : α} {entries : List (κ × α)} {other : κ} :
    other ∈ (setEntry key value entries).map (·.1) ↔
      other = key ∨ other ∈ entries.map (·.1) := by
  induction entries with
  | nil => simp [setEntry]
  | cons entry rest ih =>
      obtain ⟨first, old⟩ := entry
      by_cases hfirst : first = key
      · subst hfirst
        simp [setEntry]
      · simp only [setEntry, hfirst, if_false, List.map_cons, List.mem_cons, ih]
        constructor
        · rintro (h | h | h) <;> simp [h]
        · rintro (h | h | h) <;> simp [h]

theorem nodup_setEntry (key : κ) (value : α) {entries : List (κ × α)}
    (distinct : (entries.map (·.1)).Nodup) :
    ((setEntry key value entries).map (·.1)).Nodup := by
  induction entries with
  | nil => simp [setEntry]
  | cons entry rest ih =>
      obtain ⟨first, old⟩ := entry
      rw [List.map_cons, List.nodup_cons] at distinct
      by_cases hfirst : first = key
      · subst hfirst
        simpa [setEntry] using distinct
      · simp only [setEntry, hfirst, if_false, List.map_cons, List.nodup_cons]
        refine ⟨?_, ih distinct.2⟩
        intro member
        rcases mem_map_setEntry.1 member with heq | member
        · exact hfirst heq
        · exact distinct.1 member

def insert (table : Table κ α) (key : κ) (value : α) : Table κ α where
  entries := setEntry key value table.entries
  distinct := nodup_setEntry key value table.distinct

def erase (table : Table κ α) (key : κ) : Table κ α where
  entries := table.entries.filter fun entry => entry.1 ≠ key
  distinct := table.distinct.sublist (List.filter_sublist.map _)

theorem map_fst_update (key : κ) (change : α → α) (entries : List (κ × α)) :
    (entries.map fun entry =>
        if entry.1 = key then (entry.1, change entry.2) else entry).map (·.1) =
      entries.map (·.1) := by
  rw [List.map_map]
  apply List.map_congr_left
  intro entry _
  simp only [Function.comp]
  split <;> rfl

/-- Replaces a present value; a missing key stays missing. -/
def update (table : Table κ α) (key : κ) (change : α → α) : Table κ α where
  entries := table.entries.map fun entry =>
    if entry.1 = key then (entry.1, change entry.2) else entry
  distinct := by
    rw [map_fst_update]
    exact table.distinct

def keys (table : Table κ α) : List κ :=
  table.entries.map (·.1)

def values (table : Table κ α) : List α :=
  table.entries.map (·.2)

def size (table : Table κ α) : Nat :=
  table.entries.length

def isEmpty (table : Table κ α) : Bool :=
  table.entries.isEmpty

omit [DecidableEq κ] in
theorem isEmpty_iff {table : Table κ α} : table.isEmpty = true ↔ table = ∅ := by
  constructor
  · intro h
    obtain ⟨entries, distinct⟩ := table
    have entries_eq : entries = [] := by simpa [isEmpty] using h
    subst entries_eq
    rfl
  · rintro rfl
    rfl

@[simp] theorem get?_empty (key : κ) : (empty : Table κ α).get? key = none := rfl

theorem lookup_setEntry (key : κ) (value : α) (entries : List (κ × α)) (other : κ) :
    (setEntry key value entries).lookup other =
      if other = key then some value else entries.lookup other := by
  induction entries with
  | nil =>
      by_cases h : other = key
      · simp [setEntry, h]
      · simp [setEntry, List.lookup_cons, beq_eq_false_iff_ne.mpr h, h]
  | cons entry rest ih =>
      obtain ⟨first, old⟩ := entry
      by_cases hfirst : first = key
      · subst hfirst
        by_cases h : other = first
        · simp [setEntry, h]
        · simp [setEntry, List.lookup_cons, beq_eq_false_iff_ne.mpr h, h]
      · by_cases h : other = first
        · subst h
          simp [setEntry, hfirst]
        · simp only [setEntry, hfirst, if_false, List.lookup_cons]
          have : (other == first) = false := by simpa using h
          simp [this, ih]

@[simp] theorem get?_insert (table : Table κ α) (key : κ) (value : α) (other : κ) :
    (table.insert key value).get? other =
      if other = key then some value else table.get? other :=
  lookup_setEntry key value table.entries other

theorem lookup_filter_ne (key : κ) (entries : List (κ × α)) (other : κ) :
    (entries.filter fun entry => entry.1 ≠ key).lookup other =
      if other = key then none else entries.lookup other := by
  induction entries with
  | nil => simp
  | cons entry rest ih =>
      obtain ⟨first, value⟩ := entry
      by_cases hfirst : first = key
      · subst hfirst
        simp only [ne_eq, not_true_eq_false, decide_false, Bool.false_eq_true,
          not_false_eq_true, List.filter_cons_of_neg, ih, List.lookup_cons]
        by_cases h : other = first
        · simp [h]
        · have : (other == first) = false := by simpa using h
          simp [h, this]
      · simp only [ne_eq, hfirst, not_false_eq_true, decide_true, List.filter_cons_of_pos,
          List.lookup_cons, ih]
        by_cases h : other = first
        · subst h
          simp [hfirst]
        · have : (other == first) = false := by simpa using h
          simp [this]

@[simp] theorem get?_erase (table : Table κ α) (key other : κ) :
    (table.erase key).get? other = if other = key then none else table.get? other := by
  simpa [erase, get?] using lookup_filter_ne key table.entries other

theorem lookup_map_update (key : κ) (change : α → α) (entries : List (κ × α)) (other : κ) :
    (entries.map fun entry =>
        if entry.1 = key then (entry.1, change entry.2) else entry).lookup other =
      if other = key then (entries.lookup other).map change else entries.lookup other := by
  induction entries with
  | nil => simp
  | cons entry rest ih =>
      obtain ⟨first, value⟩ := entry
      by_cases hfirst : first = key
      · subst hfirst
        simp only [List.map_cons, if_true, List.lookup_cons, ih]
        by_cases h : other = first
        · simp [h]
        · have : (other == first) = false := by simpa using h
          simp [h, this]
      · simp only [List.map_cons, hfirst, if_false, List.lookup_cons, ih]
        by_cases h : other = first
        · subst h
          simp [hfirst]
        · have : (other == first) = false := by simpa using h
          simp [this]

@[simp] theorem get?_update (table : Table κ α) (key : κ) (change : α → α) (other : κ) :
    (table.update key change).get? other =
      if other = key then (table.get? other).map change else table.get? other :=
  lookup_map_update key change table.entries other

theorem update_update (table : Table κ α) (key : κ) (change later : α → α) :
    (table.update key change).update key later = table.update key (later ∘ change) := by
  simp only [update, List.map_map, mk.injEq]
  apply List.map_congr_left
  intro entry _
  by_cases same : entry.1 = key
  · simp [same]
  · simp [same]

theorem update_comm (table : Table κ α) (key other : κ) (change : α → α) :
    (table.update key change).update other change =
      (table.update other change).update key change := by
  simp only [update, List.map_map, mk.injEq]
  apply List.map_congr_left
  rintro ⟨found, value⟩ -
  by_cases isKey : found = key
  · subst isKey
    by_cases isOther : found = other
    · simp [isOther]
    · simp [isOther]
  · by_cases isOther : found = other
    · subst isOther
      simp [isKey]
    · simp [isKey, isOther]

theorem lookup_eq_some_iff {entries : List (κ × α)} (distinct : (entries.map (·.1)).Nodup)
    {key : κ} {value : α} : entries.lookup key = some value ↔ (key, value) ∈ entries := by
  induction entries with
  | nil => simp
  | cons entry rest ih =>
      obtain ⟨first, old⟩ := entry
      rw [List.map_cons, List.nodup_cons] at distinct
      by_cases h : key = first
      · subst h
        have absent : (key, value) ∉ rest := fun member =>
          distinct.1 (List.mem_map.2 ⟨(key, value), member, rfl⟩)
        simp [absent, eq_comm]
      · simp [List.lookup_cons, beq_eq_false_iff_ne.mpr h, ih distinct.2, h]

theorem get?_eq_some_iff {table : Table κ α} {key : κ} {value : α} :
    table.get? key = some value ↔ (key, value) ∈ table.entries :=
  lookup_eq_some_iff table.distinct

/-- Only the present value matters to an update. -/
theorem update_congr (table : Table κ α) {key : κ} {change other : α → α}
    (agree : ∀ value, table.get? key = some value → change value = other value) :
    table.update key change = table.update key other := by
  simp only [update, mk.injEq]
  apply List.map_congr_left
  intro entry member
  split
  · rename_i same
    rw [agree entry.2 (same ▸ get?_eq_some_iff.2 member)]
  · rfl

end Table

end EventHub
