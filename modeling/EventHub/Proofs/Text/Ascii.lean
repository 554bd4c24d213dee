import EventHub.Text.Ascii

/-!
Small letters. Beyond ASCII a character is its own small letter, and within it a fact about all
characters is a fact about numbers.
-/

namespace EventHub.Text

theorem forall_ascii {motive : Char → Prop} (listed : ∀ code < 0x80, motive (Char.ofNat code))
    {char : Char} (ascii : char.toNat < 0x80) : motive char := by
  have found := listed char.toNat ascii
  rwa [Char.ofNat_toNat] at found

theorem not_le_upperZ {char : Char} (beyond : ¬char.toNat < 0x80) : ¬char ≤ 'Z' := by
  rw [Char.le_def, UInt32.le_iff_toNat_le, Nat.not_le]
  exact Nat.lt_of_lt_of_le (by decide) (Nat.not_lt.1 beyond)

theorem toLower_of_not_ascii {char : Char} (beyond : ¬char.toNat < 0x80) :
    char.toLower = char :=
  dif_neg fun inside => not_le_upperZ beyond (Char.le_def.2 inside.2)

theorem lowerChar_eq_toLower (char : Char) : lowerChar char = char.toLower := by
  by_cases ascii : char.toNat < 0x80
  · refine forall_ascii (motive := fun char => lowerChar char = char.toLower) ?_ ascii
    decide +kernel
  · rw [toLower_of_not_ascii ascii, lowerChar, if_neg fun inside => not_le_upperZ ascii inside.2]

theorem lower_eq_map_toLower (text : List Char) : lower text = text.map Char.toLower :=
  List.map_congr_left fun char _ => lowerChar_eq_toLower char

end EventHub.Text
