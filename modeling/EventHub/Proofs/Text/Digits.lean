import EventHub.Text.Digits

/-! A whole number that is written out in decimal digits is read as itself. -/

namespace EventHub.Text

theorem digitsValue?_eq {digits : List Char} (all : ∀ char ∈ digits, char.isDigit = true)
    (value : Nat) : digitsValue? value digits = some (Nat.ofDigitChars 10 digits value) := by
  induction digits generalizing value with
  | nil => rfl
  | cons char rest ih =>
      obtain ⟨digit, others⟩ := List.forall_mem_cons.1 all
      rw [digitsValue?, digitValue?, if_pos digit, Option.bind_some, ih others,
        Nat.ofDigitChars_cons, Nat.mul_comm]
      rfl

theorem digitsValue?_eq_none {digits : List Char} {char : Char} (member : char ∈ digits)
    (other : char.isDigit = false) (value : Nat) : digitsValue? value digits = none := by
  induction digits generalizing value with
  | nil => cases member
  | cons first rest ih =>
      rw [digitsValue?, Option.bind_eq_none_iff]
      rcases List.mem_cons.1 member with rfl | later
      · intro digit read
        rw [digitValue?, if_neg (by simp [other])] at read
        cases read
      · exact fun digit _ => ih later _

theorem digits?_eq_none {digits : List Char} {char : Char} (member : char ∈ digits)
    (other : char.isDigit = false) : digits? digits = none := by
  rw [digits?, digitsValue?_eq_none member other, ite_self]

/-- Nothing but digits and a plus sign in front is a whole number. -/
theorem natural?_eq_none {text : List Char} {char : Char} (member : char ∈ text)
    (other : char.isDigit = false) (noSign : char ≠ '+') : natural? text = none := by
  unfold natural?
  split
  · rcases List.mem_cons.1 member with rfl | later
    · exact absurd rfl noSign
    · exact digits?_eq_none later other
  · exact digits?_eq_none member other

theorem isDigit_of_mem_toString {value : Nat} {char : Char}
    (member : char ∈ (toString value).toList) : char.isDigit = true := by
  rw [Nat.toString_eq_repr, Nat.toList_repr] at member
  exact Nat.isDigit_of_mem_toDigits (by decide) (by decide) member

theorem natural?_toString (value : Nat) : natural? (toString value).toList = some value := by
  have all : ∀ char ∈ (toString value).toList, char.isDigit = true :=
    fun _ => isDigit_of_mem_toString
  have read := digitsValue?_eq all 0
  rw [Nat.toString_eq_repr, Nat.toList_repr] at all read ⊢
  rw [Nat.ofDigitChars_toDigits (by decide) (by decide)] at read
  rw [natural?]
  · rw [digits?, List.isEmpty_eq_false_iff.2 Nat.toDigits_ne_nil]
    exact read
  · rintro rest signed
    cases all '+' (signed ▸ List.mem_cons_self)

end EventHub.Text
