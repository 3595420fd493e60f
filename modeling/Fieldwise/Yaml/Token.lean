/-!
The tokens of YAML text. Every collection has a token where it begins and one where it ends, whether
it stands in brackets, a flow collection, or is made by indentation, a block collection; only a
block sequence in the column of the mapping around it has neither.
-/

namespace Fieldwise.Yaml

inductive Token where
  | documentStart
  | documentEnd
  | blockSequenceStart
  | blockMappingStart
  | blockEnd
  | flowSequenceStart
  | flowSequenceEnd
  | flowMappingStart
  | flowMappingEnd
  | blockEntry
  | flowEntry
  /-- What follows, up to a colon, is a key. -/
  | key
  | value
  /-- A text, and whether it stands without quotes. -/
  | scalar (text : String) (plain : Bool)
  deriving DecidableEq, Repr

end Fieldwise.Yaml
