import SddsReceiver.Settings.Document

/-!
# Tokens of structured text

A text is a sequence of tokens: the bounds of documents, the starts and ends of sequences and
mappings, the marks between their items, and the annotations and scalars themselves.
Structure that only indentation shows has tokens as well.
-/
namespace SddsReceiver.Yaml

inductive Token where
  /-- The version of the language that a document is written in. -/
  | version (major minor : Nat)
  /-- A handle and the beginning of the tags that it stands for. -/
  | shorthand (handle beginning : String)
  | documentStart
  | documentEnd
  | blockSequence
  | blockMapping
  | blockEnd
  | flowSequence
  | flowSequenceEnd
  | flowMapping
  | flowMappingEnd
  | blockEntry
  | flowEntry
  | key
  | value
  | alias (name : String)
  | anchor (name : String)
  /-- A tag in two parts; a tag that is given as a whole has no handle. -/
  | tag (handle suffix : String)
  | scalar (text : String) (style : Settings.ScalarStyle)
  deriving DecidableEq, Repr

end SddsReceiver.Yaml
