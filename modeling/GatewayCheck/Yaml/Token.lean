import GatewayCheck.Yaml.Tag

/-!
Tokens: the marks and the scalars of a document in the order of the text, with marks for the start
and the end of indented blocks.
-/
namespace GatewayCheck.Yaml

/-- A token. -/
inductive Token where
  | directive (directive : Directive)
  | documentStart
  | documentEnd
  | textEnd
  | blockSequence
  | blockMapping
  | blockEnd
  | blockEntry
  | flowSequence
  | flowSequenceEnd
  | flowMapping
  | flowMappingEnd
  | flowEntry
  | key
  | value
  | reference (name : String)
  | anchor (name : String)
  | tag (handle : String) (suffix : Bytes)
  | scalar (isPlain : Bool) (text : String)
  deriving DecidableEq, Repr

end GatewayCheck.Yaml
