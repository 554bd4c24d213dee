import EventHub.Fields
import EventHub.Json.Reader

/-!
Decoding JSON values into the values of the domain. A record may be written as an object, whose
unknown members are skipped, or as an array of its fields in order; a known member given twice is
refused. Integers never come from a literal with a fraction or an exponent.
-/

namespace EventHub.Json

def text? : Json → Option String
  | text value => some value
  | _ => none

def bool? : Json → Option Bool
  | bool value => some value
  | _ => none

def natural? : Json → Option UInt64
  | number (.natural value) => some value
  | _ => none

def natural32? (json : Json) : Option UInt32 :=
  match json.natural? with
  | some value => if value.toNat < UInt32.size then some value.toUInt32 else none
  | none => none

def double? : Json → Option Decimal.Double
  | number (.natural value) => some (.ofUInt64 value)
  | number (.negSucc value) =>
      some (Decimal.Double.ofUInt64 (UInt64.ofNat (value.val + 1))).negate
  | number (.double value) => some value
  | _ => none

def items? : Json → Option (List Json)
  | array items => some items
  | _ => none

def texts? (json : Json) : Option (List String) :=
  json.items?.bind fun items => items.mapM text?

def optional? {α : Type} (decode : Json → Option α) : Json → Option (Option α)
  | null => some none
  | json => (decode json).map some

def keysUnique : List (String × Json) → Bool
  | [] => true
  | (key, _) :: rest => !(rest.any fun member => member.1 == key) && keysUnique rest

/-- The members with known names; every name must denote a text. -/
def knownMembers? (known : List String) :
    List (Option String × Json) → Option (List (String × Json))
  | [] => some []
  | (none, _) :: _ => none
  | (some key, value) :: rest =>
      (knownMembers? known rest).map fun members =>
        if known.contains key then (key, value) :: members else members

def fields? (known : List String) : Json → Option (Fields Json)
  | object members =>
      match knownMembers? known members with
      | some members => if keysUnique members then some members else none
      | none => none
  | array items => if items.length ≤ known.length then some (known.zip items) else none
  | _ => none

/-- Types are taken strictly. -/
def format : Format Json where
  fields? := fields?
  bool? := bool?
  natural? := natural?
  natural32? := natural32?
  double? := double?
  text? := text?
  items? := items?
  isNull
    | null => true
    | _ => false

/-- A field of any JSON value, in canonical form; the record around it is one container deep. -/
def payload? (json : Json) : Option Json :=
  if json.readable (depthLimit - 1) then some json.canonical else none

/-! A tagged value: an object with the tag under `type` among its members, or an array that
starts with the tag. Its content is whatever else is there. -/

def tagMembers? : List (Option String × Json) → Option (List Json × List (Option String × Json))
  | [] => some ([], [])
  | (key, value) :: rest =>
      (tagMembers? rest).map fun (tags, content) =>
        if key = some "type" then (value :: tags, content) else (tags, (key, value) :: content)

/-- The tag and the content of a tagged value that is readable throughout. -/
def tagged? (json : Json) : Option (String × Json) :=
  if json.readable depthLimit then
    match json with
    | object members =>
        match tagMembers? members with
        | some ([text tag], content) => some (tag, object content)
        | _ => none
    | array (text tag :: items) => some (tag, array items)
    | _ => none
  else none

/-- Content that is not looked at; an array must not go on after the tag. -/
def ignored? : Json → Option Unit
  | array (_ :: _) => none
  | _ => some ()

end EventHub.Json
