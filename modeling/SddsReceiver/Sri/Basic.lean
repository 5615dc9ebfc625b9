import SddsReceiver.Samples.ByteOrder

/-!
# Stream routing information

What a consumer needs to interpret a stream: its name, its axes, whether its samples are
complex, and keywords with values of four kinds. One keyword announces the byte order of the
payloads. Two descriptions agree when all their fields do; fields that are floating-point
numbers agree as numbers, so the two zeros agree and no NaN agrees with anything.
-/
namespace SddsReceiver

inductive KeywordValue where
  | bool (value : Bool)
  | long (value : Int64)
  | double (value : Float)
  | string (value : String)
  deriving Repr, BEq

structure Keyword where
  id : String
  value : KeywordValue
  deriving Repr, BEq

structure Sri where
  streamId : String
  xStart : Float := 0.0
  /-- Seconds from one sample to the next. -/
  xDelta : Float := 1.0
  xUnits : Int16 := 1
  subsize : Int32 := 0
  yStart : Float := 0.0
  yDelta : Float := 0.0
  yUnits : Int16 := 0
  /-- One for complex samples, zero for real ones. -/
  mode : Int16 := 0
  blocking : Bool := false
  keywords : List Keyword := []
  deriving Repr, BEq

namespace Sri

/-- The description of a stream of which only the name is known. -/
def ofStream (streamId : String) : Sri where
  streamId := streamId

/-- The value of the first keyword with this name. -/
def keyword? (sri : Sri) (id : String) : Option KeywordValue :=
  (sri.keywords.find? fun k => k.id == id).map Keyword.value

/-- The keyword that announces a byte order. -/
def orderKeyword : String := "dataRef"

/-- The byte order that the keywords announce. A floating-point value counts without its
fraction. -/
def announcedOrder (sri : Sri) : Option ByteOrder :=
  match sri.keyword? orderKeyword with
  | some (.long value) => ByteOrder.ofAnnouncement value.toInt
  | some (.double value) => ByteOrder.ofAnnouncement value.toInt64.toInt
  | _ => none

def complex (sri : Sri) : Bool := sri.mode == 1

/-- The byte order under an external description, with a configured one to fall back on. -/
def orderInForce (external : Option Sri) (configured : ByteOrder) : ByteOrder :=
  (external.bind announcedOrder).getD configured

end Sri

end SddsReceiver
