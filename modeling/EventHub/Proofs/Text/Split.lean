import EventHub.Text.Split

/-!
The parts of a text between separators: no part holds one, and joined by the separator they are the
text again.
-/

namespace EventHub.Text

variable {separator : Char} {text part : List Char} {parts : List (List Char)}

theorem splitAll_eq_splitOn (separator : Char) (text : List Char) :
    splitAll separator text = text.splitOn separator := by
  induction text with
  | nil => rfl
  | cons char rest ih =>
      rw [splitAll, List.splitOn_cons_eq_if_modifyHead, ← ih]
      simp only [beq_iff_eq]
      split
      · rfl
      · cases parts : splitAll separator rest with
        | nil => exact absurd parts (splitAll_ne_nil separator rest)
        | cons part others => rfl

theorem intercalate_splitAll (separator : Char) (text : List Char) :
    [separator].intercalate (splitAll separator text) = text := by
  rw [splitAll_eq_splitOn, List.intercalate_splitOn]

theorem splitAll_intercalate (solid : ∀ part ∈ parts, separator ∉ part) (nonempty : parts ≠ []) :
    splitAll separator ([separator].intercalate parts) = parts := by
  rw [splitAll_eq_splitOn, List.splitOn_intercalate separator solid nonempty]

theorem not_mem_of_mem_splitAll (member : part ∈ splitAll separator text) : separator ∉ part := by
  induction text generalizing part with
  | nil =>
      cases List.mem_singleton.1 member
      exact List.not_mem_nil
  | cons char rest ih =>
      rw [splitAll] at member
      split at member
      · rcases List.mem_cons.1 member with rfl | later
        · exact List.not_mem_nil
        · exact ih later
      · rename_i apart
        split at member
        · cases List.mem_singleton.1 member
          simpa using Ne.symm apart
        · rename_i first others split
          rw [split] at ih
          rcases List.mem_cons.1 member with rfl | later
          · rw [List.mem_cons, not_or]
            exact ⟨Ne.symm apart, ih List.mem_cons_self⟩
          · exact ih (List.mem_cons_of_mem first later)

/-- What follows without a separator belongs to the last part. -/
theorem exists_splitAll_append (separator : Char) (text : List Char) :
    ∃ init last, splitAll separator text = init ++ [last] ∧
      ∀ more, separator ∉ more → splitAll separator (text ++ more) = init ++ [last ++ more] := by
  induction text with
  | nil =>
      refine ⟨[], [], rfl, fun more solid => ?_⟩
      rw [splitAll_eq_splitOn]
      exact List.splitOn_eq_singleton solid
  | cons char rest ih =>
      obtain ⟨init, last, split, splitMore⟩ := ih
      simp only [List.cons_append, splitAll, split]
      split
      · exact ⟨[] :: init, last, rfl, fun more solid => by rw [splitMore more solid]; rfl⟩
      · cases init with
        | nil => exact ⟨[], char :: last, rfl, fun more solid => by rw [splitMore more solid]; rfl⟩
        | cons part init =>
            refine ⟨(char :: part) :: init, last, rfl, fun more solid => ?_⟩
            rw [splitMore more solid]
            rfl

end EventHub.Text
