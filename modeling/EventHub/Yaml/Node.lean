import EventHub.Yaml.Scalar

/-! The content of a YAML document. -/

namespace EventHub

inductive Yaml where
  | scalar (value : Yaml.Scalar)
  | list (items : List Yaml)
  | table (members : List (Yaml.Scalar × Yaml))

namespace Yaml

def null : Yaml :=
  scalar .null

/-- A node that can be the key of a mapping. -/
def key? : Yaml → Option Scalar
  | scalar value => (Scalar.key? value).map fun _ => value
  | list _ | table _ => none

end Yaml

end EventHub
