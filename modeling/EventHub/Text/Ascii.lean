/-!
Letter case in ASCII. Only the twenty-six Latin letters have another case; every other
character stands for itself.
-/

namespace EventHub.Text

def lowerChar (char : Char) : Char :=
  if 'A' ≤ char ∧ char ≤ 'Z' then Char.ofNat (char.toNat + 32) else char

def lower (text : List Char) : List Char :=
  text.map lowerChar

def equalIgnoringCase (left right : List Char) : Bool :=
  lower left == lower right

def lowerString (text : String) : String :=
  String.ofList (lower text.toList)

theorem equalIgnoringCase_iff (left right : List Char) :
    equalIgnoringCase left right = true ↔ lower left = lower right := by
  simp [equalIgnoringCase]

end EventHub.Text
