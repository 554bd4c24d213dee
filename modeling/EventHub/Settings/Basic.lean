import EventHub.Fields
import EventHub.Decimal.Reader
import EventHub.Text.Digits
import EventHub.Yaml.Node

/-!
Settings as files and environment variables give them. Their types are loose: where a field wants
another type, a scalar is converted if it has a meaning there.
-/

namespace EventHub

inductive Setting where
  | absent
  | bool (value : Bool)
  /-- An integer of 64 bits. -/
  | integer (value : Int)
  | real (value : Decimal.Double)
  | text (value : String)
  | list (items : List Setting)
  | table (members : List (String × Setting))

namespace Setting

/-- Words for true and false wherever a truth value or a number is wanted. -/
def switch? (word : String) : Option Bool :=
  let word := Text.lowerString word
  if word = "true" ∨ word = "on" ∨ word = "yes" then some true
  else if word = "false" ∨ word = "off" ∨ word = "no" then some false
  else none

def bool? : Setting → Option Bool
  | bool value => some value
  | integer value => some (value ≠ 0)
  | real value => some (!value.isZero)
  | text word =>
      if word = "1" then some true else if word = "0" then some false else switch? word
  | absent | list _ | table _ => none

def naturalOfWord? (word : String) : Option UInt64 :=
  match switch? word with
  | some value => some (if value then 1 else 0)
  | none =>
      ((Text.natural? word.toList).filter fun value => value < UInt64.size).map UInt64.ofNat

/-- A real number is rounded, a half away from zero, and kept within 64 bits. -/
def natural? : Setting → Option UInt64
  | bool value => some (if value then 1 else 0)
  | integer value => if 0 ≤ value then some (UInt64.ofNat value.toNat) else none
  | real value => some value.toFloat.round.toUInt64
  | text word => naturalOfWord? word
  | absent | list _ | table _ => none

def natural32? (setting : Setting) : Option UInt32 :=
  (setting.natural?.filter fun value => value.toNat < UInt32.size).map UInt64.toUInt32

def doubleOfBool (value : Bool) : Decimal.Double :=
  if value then .ofFloat 1 else .ofFloat 0

def double? : Setting → Option Decimal.Double
  | bool value => some (doubleOfBool value)
  | integer value =>
      some (if value < 0 then (Decimal.Double.ofUInt64 (UInt64.ofNat value.natAbs)).negate
        else .ofUInt64 (UInt64.ofNat value.toNat))
  | real value => some value
  | text word =>
      match switch? word with
      | some value => some (doubleOfBool value)
      | none => Decimal.Double.ofText? word
  | absent | list _ | table _ => none

/-- A real number in a text has all its places and no exponent. -/
def realStyle : Decimal.Style where
  positionalFrom := none
  positionalBelow := none
  marksIntegral := false
  signsExponent := false

def text? : Setting → Option String
  | bool value => some (if value then "true" else "false")
  | integer value => some (toString value)
  | real value => some (realStyle.text value)
  | text value => some value
  | absent | list _ | table _ => none

def items? : Setting → Option (List Setting)
  | list items => some items
  | _ => none

/-- A record may be a list of its fields in order; what goes beyond them is left alone. -/
def fields? (known : List String) : Setting → Option (Fields Setting)
  | table members => some members
  | list items => some (known.zip items)
  | _ => none

def format : Format Setting where
  fields? := fields?
  bool? := bool?
  natural? := natural?
  natural32? := natural32?
  double? := double?
  text? := text?
  items? := items?
  isNull
    | absent => true
    | _ => false

/-- The setting that a text of an environment variable is. -/
def ofText (content : String) : Setting :=
  let word := Text.lowerString content
  if word = "true" then bool true
  else if word = "false" then bool false
  else
    match (Text.integer? content.toList).filter Text.fitsWord with
    | some value => integer value
    | none =>
        match Decimal.Double.ofText? content with
        | some value => real value
        | none => text content

def ofScalar? : Yaml.Scalar → Option Setting
  | .null => some absent
  | .bool value => some (bool value)
  | .integer value => some (integer value)
  | .real literal => (Decimal.Double.ofText? literal).map real
  | .text value => some (text value)

/-- Sets the value of a key; the last of equal keys counts. -/
def putMember (members : List (String × Setting)) (key : String) (value : Setting) :
    List (String × Setting) :=
  match members with
  | [] => [(key, value)]
  | (first, old) :: rest =>
      if first = key then (key, value) :: rest else (first, old) :: putMember rest key value

/-! The settings in a file; a special real number has no place there. -/

mutual

def ofYaml? : Yaml → Option Setting
  | .scalar value => ofScalar? value
  | .list items => (ofItems? items).map list
  | .table members => (ofMembers? members).map table

def ofItems? : List Yaml → Option (List Setting)
  | [] => some []
  | item :: rest => do
      let first ← ofYaml? item
      let others ← ofItems? rest
      some (first :: others)

def ofMembers? : List (Yaml.Scalar × Yaml) → Option (List (String × Setting))
  | [] => some []
  | (key, value) :: rest => do
      let name ← key.key?
      let first ← ofYaml? value
      let others ← ofMembers? rest
      some (if others.any (·.1 == name) then others else (name, first) :: others)

end

end Setting

end EventHub
