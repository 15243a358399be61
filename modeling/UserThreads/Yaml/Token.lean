/-!
The tokens of a YAML stream. Indentation is made explicit: a block collection
stands between a start and an end of its own.
-/

namespace UserThreads.Yaml

inductive Token
  | directive
  | documentStart
  | documentEnd
  | blockSequenceStart
  | blockMappingStart
  | blockEnd
  | flowSequenceStart
  | flowSequenceEnd
  | flowMappingStart
  | flowMappingEnd
  | blockEntry
  | flowEntry
  | key
  | value
  /-- Stands for the node that has the anchor `name`. -/
  | reference (name : String)
  | anchor (name : String)
  | tag (handle ending : String)
  /-- A scalar; one that is not plain is always a text. -/
  | scalar (plain : Bool) (text : String)
  deriving DecidableEq, Repr

end UserThreads.Yaml
