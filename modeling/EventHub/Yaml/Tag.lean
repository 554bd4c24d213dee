import EventHub.Yaml.Folded
import EventHub.Yaml.Token

/-! Tags, and the directives before a document, which give tags their handles. -/

namespace EventHub.Yaml

def isWordChar (char : Char) : Bool :=
  char.isAlphanum || char == '-' || char == '_'

def isUriChar (char : Char) : Bool :=
  char.isAlphanum || char == '-' || "#;/?:@&=+$,_.!~*'()[]%".toList.contains char

def isTagChar (char : Char) : Bool :=
  isUriChar char && !isFlowIndicator char && char != '!'

/-- How many bytes a character takes that starts with a byte. -/
def escapedLength? (lead : Nat) : Option Nat :=
  if lead < 0x80 then some 1
  else if 0xC0 ≤ lead ∧ lead < 0xE0 then some 2
  else if 0xE0 ≤ lead ∧ lead < 0xF0 then some 3
  else if 0xF0 ≤ lead ∧ lead < 0xF8 then some 4
  else none

def escapedByte? : List Char → Option Nat
  | '%' :: high :: low :: _ => Text.inRadix? 16 [high, low]
  | _ => none

def escapedTail? : Nat → Nat → List Char → Option Nat
  | 0, code, _ => some code
  | count + 1, code, text =>
      (escapedByte? text).bind fun byte =>
        if 0x80 ≤ byte ∧ byte < 0xC0 then escapedTail? count (code * 256 + byte) (text.drop 3)
        else none

/-- A character written as its bytes, and how many characters the escapes take. -/
def escapedChar? (text : List Char) : Option (Char × Nat) := do
  let lead ← escapedByte? text
  let length ← escapedLength? lead
  let code ← escapedTail? (length - 1) lead (text.drop 3)
  let char ← char? code
  some (char, 3 * length)

/-- Characters of a tag with a property, and the place behind them. -/
def tagText? (property : Char → Bool) : Nat → Cursor → Option (List Char × Cursor)
  | 0, cursor => some ([], cursor)
  | fuel + 1, cursor =>
      match cursor.rest with
      | [] => some ([], cursor)
      | char :: _ =>
          if !property char then some ([], cursor)
          else if char = '%' then
            (escapedChar? cursor.rest).bind fun (value, length) =>
              (tagText? property fuel (cursor.advance length)).map fun (text, last) =>
                (value :: text, last)
          else
            (tagText? property fuel cursor.next).map fun (text, last) => (char :: text, last)

def tagTextOf? (property : Char → Bool) (cursor : Cursor) : Option (List Char × Cursor) :=
  tagText? property cursor.rest.length cursor

/-- An exclamation mark, a word, and an exclamation mark if there is one. -/
def tagHandle? (cursor : Cursor) : Option (List Char × Cursor) :=
  match cursor.rest with
  | '!' :: _ =>
      let (word, after) := cursor.next.span isWordChar
      if after.rest.head? = some '!' then some ('!' :: word ++ ['!'], after.next)
      else some ('!' :: word, after)
  | _ => none

def isClosedHandle (handle : List Char) : Bool :=
  handle.length ≥ 2 && handle.getLast? == some '!'

/-- A tag in full, with a handle, or local to the document. -/
def tagParts? (cursor : Cursor) : Option (List Char × List Char × Cursor) := do
  if cursor.rest.tail.head? = some '<' then
    let (suffix, after) ← tagTextOf? isUriChar (cursor.advance 2)
    if after.rest.head? = some '>' then some ([], suffix, after.next) else none
  else
    let (handle, after) ← tagHandle? cursor
    let (suffix, last) ← tagTextOf? isTagChar after
    if isClosedHandle handle then
      if suffix.isEmpty then none else some (handle, suffix, last)
    else
      match handle.tail ++ suffix with
      | [] => some ([], ['!'], last)
      | suffix => some (['!'], suffix, last)

/-- A tag ends at a blank, or inside brackets at a character that structures them. -/
def tag? (inFlow : Bool) (cursor : Cursor) : Option (Token × Cursor) :=
  (tagParts? cursor).bind fun (handle, suffix, after) =>
    if endsWord after.rest || (inFlow && after.rest.head?.any isFlowIndicator) then
      some (.tag (String.ofList handle) (String.ofList suffix), after)
    else none

/-! Directives; the cursor stands on the percent sign. -/

def versionNumber? (cursor : Cursor) : Option Cursor :=
  let (digits, after) := cursor.span Char.isDigit
  if digits.isEmpty ∨ 9 < digits.length then none else some after

def version? (cursor : Cursor) : Option (Token × Cursor) := do
  let after ← versionNumber? (cursor.span isSpace).2
  if after.rest.head? = some '.' then
    (versionNumber? after.next).map fun last => (.versionDirective, last)
  else none

/-- What a handle stands for: a local name after an exclamation mark, or the start of a name. -/
def tagExpansion? (cursor : Cursor) : Option (List Char × Cursor) :=
  match cursor.rest with
  | [] => none
  | '!' :: _ =>
      (tagTextOf? isUriChar cursor.next).map fun (text, last) => ('!' :: text, last)
  | char :: _ => if isTagChar char then tagTextOf? isUriChar cursor else none

def tagDirective? (cursor : Cursor) : Option (Token × Cursor) := do
  let (handle, after) ← tagHandle? (cursor.span isSpace).2
  if handle ≠ ['!'] ∧ ¬ isClosedHandle handle then none
  else
    let (expansion, last) ← tagExpansion? (after.span isSpace).2
    if endsWord last.rest then
      some (.tagDirective (String.ofList handle) (String.ofList expansion), last)
    else none

/-- A directive with a name of its own is left alone, with the rest of its line. -/
def directive? (cursor : Cursor) : Option (Token × Cursor) := do
  let (name, after) := cursor.next.span isWordChar
  if name.isEmpty ∨ ¬ endsWord after.rest then none
  else
    let (token, last) ←
      if name = ['Y', 'A', 'M', 'L'] then version? after
      else if name = ['T', 'A', 'G'] then tagDirective? after
      else some (.tagDirective "" "", after.lineEnd)
    (last.toLineEnd?).map fun last => (token, last.next)

end EventHub.Yaml
