/-! What a check of values finds: a code for each field it refuses, by the path of the field. -/

namespace EventHub

structure Problem where
  path : String
  code : String
  deriving DecidableEq

namespace Problem

/-- The path of a record as a whole. -/
def whole : String := "__all__"

def text (problem : Problem) : String :=
  problem.path ++ ": " ++ problem.code

/-- A problem of a part, seen from what the part belongs to. -/
def inside (owner : String) (problem : Problem) : Problem :=
  { problem with path := owner ++ "." ++ problem.path }

def check (passes : Bool) (path code : String) : List Problem :=
  if passes then [] else [{ path, code }]

def ofItems {α : Type} (owner : String) (problems : α → List Problem) (items : List α) :
    List Problem :=
  (items.mapIdx fun index item =>
    (problems item).map (inside (owner ++ "[" ++ toString index ++ "]"))).flatten

def texts (problems : List Problem) : List String :=
  (problems.map text).mergeSort fun left right => decide (left ≤ right)

end Problem

end EventHub
