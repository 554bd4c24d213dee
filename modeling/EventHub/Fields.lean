import EventHub.Decimal.Double

/-!
Reading records out of values. What a record needs of the values it is read from, be they strict
or lenient about types, is collected in a `Format`.
-/

namespace EventHub

/-- The fields of a record, by name. -/
abbrev Fields (α : Type) : Type := List (String × α)

namespace Fields

def required? {α β : Type} (fields : Fields α) (name : String) (decode : α → Option β) :
    Option β :=
  (fields.lookup name).bind decode

def default? {α β : Type} (fields : Fields α) (name : String) (decode : α → Option β)
    (default : β) : Option β :=
  match fields.lookup name with
  | some value => decode value
  | none => some default

end Fields

structure Format (α : Type) where
  /-- The fields of a record with the given field names. -/
  fields? : List String → α → Option (Fields α)
  bool? : α → Option Bool
  natural? : α → Option UInt64
  natural32? : α → Option UInt32
  double? : α → Option Decimal.Double
  text? : α → Option String
  items? : α → Option (List α)
  isNull : α → Bool

namespace Format

variable {α : Type}

/-- The items of a list, all of one kind. -/
def itemsOf? {β : Type} (format : Format α) (decode : α → Option β) (value : α) :
    Option (List β) :=
  (format.items? value).bind fun items => items.mapM decode

def texts? (format : Format α) (value : α) : Option (List String) :=
  format.itemsOf? format.text? value

def optional? {β : Type} (format : Format α) (decode : α → Option β) (value : α) :
    Option (Option β) :=
  if format.isNull value then some none else (decode value).map some

end Format

end EventHub
