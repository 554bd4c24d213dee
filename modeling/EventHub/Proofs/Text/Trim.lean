import EventHub.Text.Blank
import Mathlib.Data.List.DropRight

/-!
What trimming leaves. The two ends of a text are trimmed independently of each other, trimming
twice trims no more than once, and nothing is left exactly of a blank text.
-/

namespace EventHub.Text

def Blank (text : List Char) : Prop :=
  ∀ char ∈ text, isBlank char = true

instance (text : List Char) : Decidable (Blank text) :=
  List.decidableBAll (fun char => isBlank char = true) text

theorem trimStart_eq_nil {text : List Char} : trimStart text = [] ↔ Blank text :=
  List.dropWhile_eq_nil_iff

theorem trimEnd_eq_nil {text : List Char} : trimEnd text = [] ↔ Blank text :=
  List.rdropWhile_eq_nil_iff

theorem trimStart_append (front back : List Char) :
    trimStart (front ++ back) =
      if trimStart front = [] then trimStart back else trimStart front ++ back := by
  rw [trimStart, List.dropWhile_append]
  simp only [List.isEmpty_iff]
  rfl

theorem trimEnd_append (front back : List Char) :
    trimEnd (front ++ back) =
      if trimEnd back = [] then trimEnd front else front ++ trimEnd back := by
  rw [trimEnd, List.reverse_append, trimStart_append]
  simp only [trimEnd, List.reverse_eq_nil_iff]
  split
  · rfl
  · simp

/-- The blank start of a text and the rest of it. -/
theorem exists_eq_append_trimStart (text : List Char) :
    ∃ blanks, Blank blanks ∧ text = blanks ++ trimStart text :=
  ⟨text.takeWhile isBlank, fun _ => List.mem_takeWhile_imp, List.takeWhile_append_dropWhile.symm⟩

theorem trimStart_eq_self_of_head {text : List Char}
    (visible : ∀ char, text.head? = some char → isBlank char = false) : trimStart text = text := by
  cases text with
  | nil => rfl
  | cons char rest => exact trimStart_of_head rest (visible char rfl)

theorem trimStart_trimStart (text : List Char) : trimStart (trimStart text) = trimStart text :=
  trimStart_eq_self_of_head (head_trimStart text)

theorem trimEnd_trimEnd (text : List Char) : trimEnd (trimEnd text) = trimEnd text :=
  List.rdropWhile_idempotent _ _

theorem head_trimEnd {text : List Char} {char : Char} (head : (trimEnd text).head? = some char) :
    text.head? = some char := by
  obtain ⟨rest, text_eq⟩ : trimEnd text <+: text := List.rdropWhile_prefix isBlank text
  rw [← text_eq, List.head?_append, head]
  rfl

theorem trimStart_trimEnd (text : List Char) :
    trimStart (trimEnd text) = trimEnd (trimStart text) := by
  obtain ⟨blanks, blank, text_eq⟩ := exists_eq_append_trimStart text
  have noStart : trimStart blanks = [] := trimStart_eq_nil.2 blank
  have visible : trimStart (trimEnd (trimStart text)) = trimEnd (trimStart text) :=
    trimStart_eq_self_of_head fun char head => head_trimStart text char (head_trimEnd head)
  rw [text_eq, trimEnd_append, ← text_eq]
  split
  · rename_i nothing
    rw [nothing, trimEnd_eq_nil.2 blank]
    rfl
  · rw [trimStart_append, if_pos noStart, visible]

theorem trim_eq_nil {text : List Char} : trim text = [] ↔ Blank text := by
  rw [trim, ← trimStart_trimEnd, trimStart_eq_nil]
  constructor
  · intro blank
    have nothing : trimEnd text = [] := by
      rw [← trimEnd_trimEnd]
      exact trimEnd_eq_nil.2 blank
    exact trimEnd_eq_nil.1 nothing
  · intro blank
    rw [trimEnd_eq_nil.2 blank]
    intro _ member
    cases member

theorem trim_eq_self_of_visible {text : List Char}
    (visible : ∀ char ∈ text, isBlank char = false) : trim text = text := by
  have start : trimStart text = text :=
    trimStart_eq_self_of_head fun char head => visible char (List.mem_of_mem_head? head)
  have turned : trimStart text.reverse = text.reverse :=
    trimStart_eq_self_of_head fun char head =>
      visible char (List.mem_reverse.1 (List.mem_of_mem_head? head))
  rw [trim, start, trimEnd, turned, List.reverse_reverse]

/-- A text with blanks before it and after it. -/
def Padded (padded text : List Char) : Prop :=
  ∃ front back, Blank front ∧ Blank back ∧ padded = front ++ (text ++ back)

theorem trim_of_padded {padded text : List Char} (pads : Padded padded text) :
    trim padded = trim text := by
  obtain ⟨front, back, blankFront, blankBack, rfl⟩ := pads
  have noFront : trimStart front = [] := trimStart_eq_nil.2 blankFront
  have noBack : trimEnd back = [] := trimEnd_eq_nil.2 blankBack
  rw [trim, trim, trimStart_append, if_pos noFront, ← trimStart_trimEnd, trimEnd_append,
    if_pos noBack, trimStart_trimEnd]

theorem padded_trim (text : List Char) : Padded text (trim text) := by
  obtain ⟨front, blankFront, text_eq⟩ := exists_eq_append_trimStart text
  obtain ⟨back, blankBack, back_eq⟩ := exists_eq_append_trimStart (trimStart text).reverse
  refine ⟨front, back.reverse, blankFront,
    fun char member => blankBack char (by simpa using member), ?_⟩
  rw [trim, trimEnd, ← List.reverse_append, ← back_eq, List.reverse_reverse, ← text_eq]

theorem mem_of_mem_trim {text : List Char} {char : Char} (member : char ∈ trim text) :
    char ∈ text := by
  obtain ⟨front, back, -, -, text_eq⟩ := padded_trim text
  rw [text_eq]
  exact List.mem_append_right front (List.mem_append_left back member)

theorem not_mem_of_padded {padded text : List Char} {char : Char} (pads : Padded padded text)
    (visible : isBlank char = false) (absent : char ∉ text) : char ∉ padded := by
  obtain ⟨front, back, blankFront, blankBack, rfl⟩ := pads
  have apart {blanks : List Char} (blank : Blank blanks) : char ∉ blanks := fun member =>
    Bool.false_ne_true (visible.symm.trans (blank char member))
  simp only [List.mem_append, not_or]
  exact ⟨apart blankFront, absent, apart blankBack⟩

theorem trim_trimEnd (text : List Char) : trim (trimEnd text) = trim text := by
  rw [trim, trimStart_trimEnd, trimEnd_trimEnd, trim]

theorem trim_trim (text : List Char) : trim (trim text) = trim text := by
  rw [trim, trim, ← trimStart_trimEnd, trimEnd_trimEnd, ← trimStart_trimEnd, trimStart_trimStart]

end EventHub.Text
