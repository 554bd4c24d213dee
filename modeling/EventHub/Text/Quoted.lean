import EventHub.Text.Invisible

/-!
Texts in quotation marks, for reading by people: characters that cannot be seen for what they are
show as escapes.
-/

namespace EventHub.Text

/-- A character by its code point, in hexadecimal digits. -/
def escapedCode (char : Char) : String :=
  "\\u\x7b" ++ String.ofList (Nat.toDigits 16 char.toNat) ++ "\x7d"

def escaped (char : Char) : String :=
  match char with
  | '"' => "\\\""
  | '\\' => "\\\\"
  | '\n' => "\\n"
  | '\r' => "\\r"
  | '\t' => "\\t"
  | '\x00' => "\\0"
  | char => if isInvisible char then escapedCode char else String.singleton char

def quoted (text : String) : String :=
  "\"" ++ String.join (text.toList.map escaped) ++ "\""

end EventHub.Text
