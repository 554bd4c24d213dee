import EventHub.Settings.Basic
import EventHub.Text.Blank
import EventHub.Text.Split
import EventHub.Yaml.Reader

/-!
Settings in layers: what a later layer sets covers what an earlier one has set, table by table. A
name at the top of a layer may be a path into the settings.
-/

namespace EventHub

/-- A step of a path into settings. Positions below zero count from the end of a list. -/
inductive PathStep where
  | key (name : String)
  | position (index : Int)
  deriving DecidableEq

namespace PathStep

def isNameChar (char : Char) : Bool :=
  char.isAlphanum || char == '_' || char == '-'

def name? (text : List Char) : Option (PathStep × List Char) :=
  let name := text.takeWhile isNameChar
  if name.isEmpty then none else some (key (String.ofList name), text.dropWhile isNameChar)

/-- A position after its opening bracket, with blanks around it, in a word of 64 bits. -/
def position? (text : List Char) : Option (PathStep × List Char) :=
  match Text.splitFirst ']' text with
  | some (inner, rest) =>
      let digits := Text.strip Text.isSpaceOrTab inner
      if digits.head? = some '+' then none
      else
        ((Text.integer? digits).filter Text.fitsWord).map fun index => (position index, rest)
  | none => none

def following? : Nat → List Char → Option (List PathStep)
  | _, [] => some []
  | 0, _ => none
  | fuel + 1, '.' :: rest =>
      (name? rest).bind fun (step, after) => (following? fuel after).map (step :: ·)
  | fuel + 1, '[' :: rest =>
      (position? rest).bind fun (step, after) => (following? fuel after).map (step :: ·)
  | _, _ => none

/-- The path that a name spells, such as `hub.buffer_capacity` or `auth.tokens[0].token`. -/
def path? (name : String) : Option (List PathStep) :=
  (name? name.toList).bind fun (step, rest) =>
    (following? rest.length rest).map (step :: ·)

/-- A name that spells no path stands for itself. -/
def path (name : String) : List PathStep :=
  (path? name).getD [key name]

end PathStep

namespace Setting

/-- A setting that is not a table has no members, and is replaced by a table when it needs one. -/
def members : Setting → List (String × Setting)
  | table members => members
  | _ => []

def items : Setting → List Setting
  | list items => items
  | _ => []

def member (setting : Setting) (name : String) : Setting :=
  (setting.members.lookup name).getD absent

/-- The items of a list with room for a position, and the place of the position. -/
def roomFor (items : List Setting) (index : Int) : List Setting × Nat :=
  let place : Int := if index < 0 then items.length + index else index
  if place < 0 then (List.replicate place.natAbs absent ++ items, 0)
  else (items ++ List.replicate (place.toNat + 1 - items.length) absent, place.toNat)

/-- Changes the setting at a path, making what the path needs. -/
def change (update : Setting → Setting) : List PathStep → Setting → Setting
  | [], setting => update setting
  | .key name :: path, setting =>
      table (putMember setting.members name (change update path (setting.member name)))
  | .position index :: path, setting =>
      let (items, place) := roomFor setting.items index
      list (items.modify place (change update path))

mutual

def cover (below : Setting) : Setting → Setting
  | table members => table (coverMembers below.members members)
  | above => above

def coverMembers (below : List (String × Setting)) :
    List (String × Setting) → List (String × Setting)
  | [] => below
  | (name, value) :: rest =>
      coverMembers (putMember below name (cover ((below.lookup name).getD absent) value)) rest

end

def addLayer (settings : Setting) (layer : List (String × Setting)) : Setting :=
  layer.foldl (fun settings (name, value) =>
    settings.change (fun below => cover below value) (PathStep.path name)) settings

def withoutByteOrderMark (content : String) : String :=
  match content.toList with
  | '\ufeff' :: rest => String.ofList rest
  | _ => content

/-- The layer in a file, which must hold a table. -/
def fileLayer? (content : String) : Option (List (String × Setting)) :=
  match (Yaml.document? (withoutByteOrderMark content)).bind ofYaml? with
  | some (table members) => some members
  | _ => none

/-- Two underscores in a row separate the names of a path. -/
def pathOfVariable : List Char → List Char
  | [] => []
  | '_' :: '_' :: rest => '.' :: pathOfVariable rest
  | char :: rest => char :: pathOfVariable rest

/-- Lower case for the names of variables. The Kelvin sign is the only character beyond ASCII
that becomes a letter of ASCII. -/
def lowerName (name : String) : List Char :=
  name.toList.map fun char => if char = '\u212a' then 'k' else Text.lowerChar char

/-- The layer in those environment variables whose names start in the given way, in any case. -/
def environmentLayer (start : String) (environment : List (String × String)) :
    List (String × Setting) :=
  let lowerStart := lowerName start
  environment.filterMap fun (name, value) =>
    let lower := lowerName name
    if lowerStart.isPrefixOf lower then
      some (String.ofList (pathOfVariable (lower.drop lowerStart.length)), ofText value)
    else none

end Setting

structure SettingSources where
  file : Option String := none
  fileMissing : Bool := false
  environment : List (String × String) := []
  deriving DecidableEq

/-- The settings of all sources, the environment on top. -/
def SettingSources.gather? (sources : SettingSources) (start : String) : Option Setting :=
  if sources.fileMissing then none
  else
    let layer :=
      match sources.file with
      | some content => Setting.fileLayer? content
      | none => some []
    layer.map fun layer =>
      ((Setting.table []).addLayer layer).addLayer
        (Setting.environmentLayer start sources.environment)

end EventHub
