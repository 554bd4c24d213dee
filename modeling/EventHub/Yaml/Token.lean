/-! The tokens of a YAML text. Block collections start and end where the indentation changes. -/

namespace EventHub.Yaml

inductive Token where
  | documentStart
  | documentEnd
  | versionDirective
  /-- A handle of tags stands for the start of their names. -/
  | tagDirective (handle expansion : String)
  | blockSequence
  | blockMapping
  | blockEnd
  | flowSequence
  | flowSequenceEnd
  | flowMapping
  | flowMappingEnd
  /-- The dash before an item of a block sequence. -/
  | item
  /-- The comma between entries of a flow collection. -/
  | separator
  | key
  | value
  | anchor (name : String)
  | reference (name : String)
  | tag (handle suffix : String)
  | scalar (isPlain : Bool) (text : String)
  deriving DecidableEq

end EventHub.Yaml
