/-!
Blank characters and trimming. A character is blank when Unicode gives it the `White_Space`
property; trimming removes the blank characters at both ends and nothing else.
-/

namespace EventHub.Text

def isBlank (char : Char) : Bool :=
  let code := char.toNat
  (0x09 ≤ code && code ≤ 0x0D) || code == 0x20 || code == 0x85 || code == 0xA0 ||
    code == 0x1680 || (0x2000 ≤ code && code ≤ 0x200A) || code == 0x2028 ||
    code == 0x2029 || code == 0x202F || code == 0x205F || code == 0x3000

def isSpaceOrTab (char : Char) : Bool :=
  char == ' ' || char == '\t'

/-- A text without the characters of a kind at its ends. -/
def strip (isLeftOut : Char → Bool) (text : List Char) : List Char :=
  ((text.dropWhile isLeftOut).reverse.dropWhile isLeftOut).reverse

def trimStart (text : List Char) : List Char :=
  text.dropWhile isBlank

def trimEnd (text : List Char) : List Char :=
  (trimStart text.reverse).reverse

def trim (text : List Char) : List Char :=
  trimEnd (trimStart text)

theorem trimStart_of_head {char : Char} (rest : List Char) (h : isBlank char = false) :
    trimStart (char :: rest) = char :: rest := by
  simp [trimStart, h]

theorem head_trimStart (text : List Char) :
    ∀ char, (trimStart text).head? = some char → isBlank char = false := by
  intro char h
  have := List.head?_dropWhile_not isBlank text
  rw [trimStart] at h
  rw [h] at this
  simpa using this

end EventHub.Text
