import EventHub.Json.Number

/-!
JSON values as written: members keep their order and their repetitions. A literal that the
grammar allows but that denotes nothing, a number beyond the doubles or a string with an unpaired
surrogate, is kept as `unreadable`, since a reader that skips it never notices.
-/

namespace EventHub

inductive Json where
  | null
  | bool (value : Bool)
  | number (value : Json.Number)
  | text (value : String)
  | unreadable
  | array (items : List Json)
  | object (members : List (Option String × Json))

namespace Json

instance : Inhabited Json := ⟨null⟩

def natural (value : UInt64) : Json :=
  number (.natural value)

def texts (values : List String) : Json :=
  array (values.map text)

/-- An object from named members. -/
def record (members : List (String × Json)) : Json :=
  object (members.map fun member => (some member.1, member.2))

/-! A value is readable when every literal in it denotes something and containers nest at most
`depth` deep. -/

mutual

def readable (depth : Nat) : Json → Bool
  | null | bool _ | number _ | text _ => true
  | unreadable => false
  | array items =>
      match depth with
      | 0 => false
      | depth + 1 => readableItems depth items
  | object members =>
      match depth with
      | 0 => false
      | depth + 1 => readableMembers depth members

def readableItems (depth : Nat) : List Json → Bool
  | [] => true
  | item :: rest => item.readable depth && readableItems depth rest

def readableMembers (depth : Nat) : List (Option String × Json) → Bool
  | [] => true
  | (key, value) :: rest => key.isSome && value.readable depth && readableMembers depth rest

end

/-- Containers may nest this deep. -/
def depthLimit : Nat := 127

/-! Canonical form: members sorted by key, the last of equal keys kept. -/

def setMember (key : String) (value : Json) :
    List (Option String × Json) → List (Option String × Json)
  | [] => [(some key, value)]
  | (none, old) :: rest => (none, old) :: setMember key value rest
  | (some first, old) :: rest =>
      if key < first then (some key, value) :: (some first, old) :: rest
      else if first < key then (some first, old) :: setMember key value rest
      else (some key, value) :: rest

mutual

def canonical : Json → Json
  | null => null
  | bool value => bool value
  | number value => number value
  | text value => text value
  | unreadable => unreadable
  | array items => array (canonicalItems items)
  | object members => object (canonicalMembers [] members)

def canonicalItems : List Json → List Json
  | [] => []
  | item :: rest => item.canonical :: canonicalItems rest

def canonicalMembers (sorted : List (Option String × Json)) :
    List (Option String × Json) → List (Option String × Json)
  | [] => sorted
  | (none, _) :: rest => canonicalMembers sorted rest
  | (some key, value) :: rest => canonicalMembers (setMember key value.canonical sorted) rest

end

end Json

end EventHub
