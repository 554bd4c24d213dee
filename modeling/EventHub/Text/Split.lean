/-! Cutting a text at a separator character. -/

namespace EventHub.Text

/-- The parts before and after the first separator, if there is one. -/
def splitFirst (separator : Char) : List Char → Option (List Char × List Char)
  | [] => none
  | char :: rest =>
      if char = separator then some ([], rest)
      else (splitFirst separator rest).map fun (before, after) => (char :: before, after)

/-- All parts between separators; never empty. -/
def splitAll (separator : Char) : List Char → List (List Char)
  | [] => [[]]
  | char :: rest =>
      if char = separator then [] :: splitAll separator rest
      else
        match splitAll separator rest with
        | [] => [[char]]
        | part :: parts => (char :: part) :: parts

theorem splitFirst_eq_some {separator : Char} {text before after : List Char} :
    splitFirst separator text = some (before, after) ↔
      text = before ++ separator :: after ∧ separator ∉ before := by
  induction text generalizing before with
  | nil => simp [splitFirst]
  | cons char rest ih =>
      by_cases h : char = separator
      · subst h
        cases before with
        | nil => simp [splitFirst, eq_comm]
        | cons first before =>
            simp only [splitFirst, if_true, List.cons_append]
            constructor
            · intro h
              simp at h
            · rintro ⟨h, hmem⟩
              injection h with hfirst
              simp [hfirst] at hmem
      · cases before with
        | nil =>
            simp only [splitFirst, h, if_false, List.nil_append]
            constructor
            · intro heq
              cases hr : splitFirst separator rest with
              | none => simp [hr] at heq
              | some pair => simp [hr] at heq
            · rintro ⟨heq, _⟩
              injection heq with hc
              exact absurd hc h
        | cons first before =>
            simp only [splitFirst, h, if_false, Option.map_eq_some_iff]
            constructor
            · rintro ⟨⟨left, right⟩, hr, heq⟩
              simp only [Prod.mk.injEq, List.cons.injEq] at heq
              obtain ⟨⟨rfl, rfl⟩, rfl⟩ := heq
              obtain ⟨rfl, hmem⟩ := ih.1 hr
              exact ⟨rfl, by simp [hmem, Ne.symm h]⟩
            · rintro ⟨heq, hmem⟩
              simp only [List.cons_append, List.cons.injEq] at heq
              obtain ⟨rfl, rfl⟩ := heq
              refine ⟨(before, after), ih.2 ⟨rfl, ?_⟩, rfl⟩
              intro hin
              exact hmem (List.mem_cons_of_mem _ hin)

theorem splitAll_ne_nil (separator : Char) (text : List Char) :
    splitAll separator text ≠ [] := by
  cases text with
  | nil => simp [splitAll]
  | cons char rest =>
      by_cases h : char = separator
      · simp [splitAll, h]
      · simp only [splitAll, h, if_false]
        cases splitAll separator rest <;> simp

end EventHub.Text
