/-!
Finite sets of names, kept as a strictly increasing list. Names are ordered by code point,
which is also the order of their UTF-8 encodings. The order is part of the type, so two sets
with the same members are equal.
-/

namespace EventHub

structure NameSet where
  names : List String
  ordered : names.Pairwise (· < ·) := by simp
  deriving DecidableEq

namespace NameSet

def empty : NameSet where
  names := []

instance : EmptyCollection NameSet := ⟨empty⟩

instance : Inhabited NameSet := ⟨empty⟩

def contains (set : NameSet) (name : String) : Bool :=
  set.names.contains name

instance : Membership String NameSet := ⟨fun set name => name ∈ set.names⟩

instance (set : NameSet) (name : String) : Decidable (name ∈ set) :=
  inferInstanceAs (Decidable (name ∈ set.names))

def isEmpty (set : NameSet) : Bool :=
  set.names.isEmpty

/-! Insertion keeps the list increasing. -/

def insertName (name : String) : List String → List String
  | [] => [name]
  | first :: rest =>
      if name < first then name :: first :: rest
      else if first < name then first :: insertName name rest
      else first :: rest

theorem mem_insertName {name other : String} {names : List String} :
    other ∈ insertName name names ↔ other = name ∨ other ∈ names := by
  induction names with
  | nil => simp [insertName]
  | cons first rest ih =>
      simp only [insertName]
      split
      · simp
      · split
        · simp only [List.mem_cons, ih]
          constructor
          · rintro (h | h | h) <;> simp [h]
          · rintro (h | h | h) <;> simp [h]
        · rename_i hnot hnot'
          have heq : name = first :=
            String.le_antisymm (String.not_lt.1 hnot') (String.not_lt.1 hnot)
          subst heq
          simp

theorem pairwise_insertName {name : String} {names : List String}
    (ordered : names.Pairwise (· < ·)) : (insertName name names).Pairwise (· < ·) := by
  induction names with
  | nil => simp [insertName]
  | cons first rest ih =>
      rw [List.pairwise_cons] at ordered
      simp only [insertName]
      split
      · rename_i hlt
        rw [List.pairwise_cons]
        refine ⟨?_, List.pairwise_cons.2 ordered⟩
        intro other hmem
        rcases List.mem_cons.1 hmem with rfl | hmem
        · exact hlt
        · exact String.lt_trans hlt (ordered.1 other hmem)
      · split
        · rename_i hlt
          rw [List.pairwise_cons]
          refine ⟨?_, ih ordered.2⟩
          intro other hmem
          rcases mem_insertName.1 hmem with rfl | hmem
          · exact hlt
          · exact ordered.1 other hmem
        · exact List.pairwise_cons.2 ordered

def insert (set : NameSet) (name : String) : NameSet where
  names := insertName name set.names
  ordered := pairwise_insertName set.ordered

def ofList (names : List String) : NameSet :=
  names.foldl insert empty

def erase (set : NameSet) (name : String) : NameSet where
  names := set.names.filter fun other => other ≠ name
  ordered := set.ordered.filter _

def toList (set : NameSet) : List String :=
  set.names

def size (set : NameSet) : Nat :=
  set.names.length

theorem nodup_names (set : NameSet) : set.names.Nodup := by
  apply set.ordered.imp
  intro left right less same
  rw [same] at less
  exact String.lt_irrefl _ less

theorem mem_iff {set : NameSet} {name : String} : name ∈ set ↔ name ∈ set.names :=
  Iff.rfl

@[ext] theorem ext_names {left right : NameSet} (names : left.names = right.names) :
    left = right := by
  obtain ⟨leftNames, leftOrdered⟩ := left
  obtain ⟨rightNames, rightOrdered⟩ := right
  subst names
  rfl

theorem isEmpty_iff {set : NameSet} : set.isEmpty = true ↔ set = ∅ := by
  constructor
  · intro h
    have names_eq : set.names = [] := by simpa [isEmpty] using h
    exact ext_names names_eq
  · rintro rfl
    rfl

theorem contains_iff {set : NameSet} {name : String} : set.contains name = true ↔ name ∈ set := by
  simp [contains, mem_iff]

@[simp] theorem mem_insert {set : NameSet} {name other : String} :
    other ∈ set.insert name ↔ other = name ∨ other ∈ set :=
  mem_insertName

theorem mem_foldl_insert {names : List String} {set : NameSet} {other : String} :
    other ∈ names.foldl insert set ↔ other ∈ names ∨ other ∈ set := by
  induction names generalizing set with
  | nil => simp
  | cons name rest ih =>
      simp only [List.foldl_cons, ih, mem_insert, List.mem_cons]
      constructor
      · rintro (h | h | h) <;> simp [h]
      · rintro ((h | h) | h) <;> simp [h]

@[simp] theorem mem_erase {set : NameSet} {name other : String} :
    other ∈ set.erase name ↔ other ∈ set ∧ other ≠ name := by
  simp [mem_iff, erase]

@[simp] theorem mem_ofList {names : List String} {name : String} :
    name ∈ ofList names ↔ name ∈ names := by
  rw [ofList, mem_foldl_insert]
  simp [mem_iff, empty]

end NameSet

end EventHub
