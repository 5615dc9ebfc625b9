import SddsReceiver.Rounding
import SddsReceiver.Settings.Document
import SddsReceiver.Sri.Basic

/-!
# Stream descriptions in documents

A document names the fields that it sets and may hold others besides. A keyword's value has
the kind that its writing shows: a truth value, a whole number, a fraction or a text. Whole
numbers beyond the signed 64-bit range become fractions.
-/
namespace SddsReceiver

open Settings (Document Node Scalar Plain.bool? Plain.integer? Plain.decimal?)

namespace KeywordValue

/-- A whole number as a keyword's value. Numbers of more than 64 bits have none. -/
def ofInteger? (n : Int) : Option KeywordValue :=
  if Settings.Plain.minSigned ≤ n ∧ n ≤ Settings.Plain.maxSigned then some (long (Int64.ofInt n))
  else if 0 ≤ n ∧ n ≤ Settings.Plain.maxUnsigned then some (double (Rounding.ofInt n))
  else none

/-- The least signed number of 128 bits. -/
def minWide : Int := -170141183460469231731687303715884105728

/-- The greatest number of 128 bits. -/
def maxWide : Int := 340282366920938463463374607431768211455

/-- Whole numbers of up to 128 bits are numbers of their own and no fractions. -/
def isWide (n : Int) : Bool :=
  decide (minWide ≤ n) && decide (n ≤ maxWide)

/-- The value of a fraction or, failing that, of a text. -/
def ofFraction (source : String) : KeywordValue :=
  if Settings.Plain.hasLeadingZero source.toList then string source
  else match Settings.Plain.decimal? source with
    | some value => double value
    | none => string source

/-- The value that unquoted text shows. -/
def ofPlain? (source : String) : Option KeywordValue :=
  if source.isEmpty || Settings.Plain.isNull source then none
  else match Settings.Plain.bool? source with
    | some value => some (bool value)
    | none =>
        match Settings.Plain.integer? source.toList with
        | some n => if isWide n then ofInteger? n else some (ofFraction source)
        | none => some (ofFraction source)

/-- The value of text with a tag. A tag of the reader's own has no value here. -/
def ofTagged? (source tag : String) : Option KeywordValue :=
  if tag.startsWith "!" then none
  else if tag == Settings.boolTag then (Settings.Plain.bool? source).map bool
  else if tag == Settings.integerTag then
    (Settings.Plain.integer? source.toList).bind ofInteger?
  else if tag == Settings.decimalTag then (Settings.Plain.decimal? source).map double
  else if tag == Settings.nullTag then none
  else some (string source)

def ofScalar? : Scalar → Option KeywordValue
  | .null => none
  | .bool value => some (bool value)
  | .integer value => ofInteger? value
  | .decimal value => some (double value)
  | .text value => some (string value)
  | .written source _ (some tag) => ofTagged? source tag
  | .written source .plain none => ofPlain? source
  | .written source _ none => some (string source)

end KeywordValue

namespace Keyword

/-- A keyword has both a name and a value. -/
def ofNode? (d : Document) (node : Node) : Option Keyword := do
  let fields ← d.fields? ["id", "value"] false (some node)
  return {
    id := ← Document.required? fields "id" d.text?
    value := ← Document.required? fields "value" fun n => (d.scalar? n).bind KeywordValue.ofScalar? }

end Keyword

namespace Sri

/-- The fields in the order in which a list gives them. -/
def fieldNames : List String :=
  ["streamID", "xstart", "xdelta", "xunits", "subsize", "ystart", "ydelta", "yunits", "mode",
    "blocking", "keywords"]

/-- A 16-bit number in a node. -/
def shortOf? (d : Document) (node : Node) : Option Int16 :=
  (d.signed? (-32768) 32767 node).map Int16.ofInt

/-- A 32-bit number in a node. -/
def longOf? (d : Document) (node : Node) : Option Int32 :=
  (d.signed? (-2147483648) 2147483647 node).map Int32.ofInt

/-- The keywords in a list. -/
def keywordsOf? (d : Document) (node : Node) : Option (List Keyword) :=
  (d.items? node).bind fun items => items.mapM (Keyword.ofNode? d)

def ofDocument? (d : Document) : Option Sri := do
  let initial := ofStream ""
  let fields ← d.fields? fieldNames false d.root
  return {
    streamId := ← Document.field? fields "streamID" initial.streamId d.text?
    xStart := ← Document.field? fields "xstart" initial.xStart d.decimal?
    xDelta := ← Document.field? fields "xdelta" initial.xDelta d.decimal?
    xUnits := ← Document.field? fields "xunits" initial.xUnits (shortOf? d)
    subsize := ← Document.field? fields "subsize" initial.subsize (longOf? d)
    yStart := ← Document.field? fields "ystart" initial.yStart d.decimal?
    yDelta := ← Document.field? fields "ydelta" initial.yDelta d.decimal?
    yUnits := ← Document.field? fields "yunits" initial.yUnits (shortOf? d)
    mode := ← Document.field? fields "mode" initial.mode (shortOf? d)
    blocking := ← Document.field? fields "blocking" initial.blocking d.bool?
    keywords := ← Document.field? fields "keywords" initial.keywords (keywordsOf? d) }

end Sri

end SddsReceiver
