import SddsReceiver.Samples.ByteOrder
import SddsReceiver.Samples.Lane

/-!
# Sample buffers

A buffer holds the samples of one lane. A payload is cut into runs of the sample width, and
each run is read in the byte order of the frame; a run that is too short at the end carries
no sample. Floating-point samples are held as their 32-bit patterns, so that every pattern
that arrives can be written back.
-/
namespace SddsReceiver

/-- The whole runs of `width + 1` bytes, in order. -/
def byteRuns (width : Nat) (bytes : List UInt8) : List (List UInt8) :=
  if width < bytes.length then
    bytes.take (width + 1) :: byteRuns width (bytes.drop (width + 1))
  else []
termination_by bytes.length
decreasing_by simp only [List.length_drop]; omega

inductive SampleBuffer where
  | octet (values : Array Int8)
  | short (values : Array Int16)
  | float (patterns : Array UInt32)
  deriving DecidableEq, Repr

namespace SampleBuffer

def empty : Lane → SampleBuffer
  | .octet => octet #[]
  | .short => short #[]
  | .float => float #[]

def lane : SampleBuffer → Lane
  | octet _ => .octet
  | short _ => .short
  | float _ => .float

/-- Samples held. -/
def size : SampleBuffer → Nat
  | octet values => values.size
  | short values => values.size
  | float patterns => patterns.size

/-- Bytes that the samples take up on the wire. -/
def byteSize (b : SampleBuffer) : Nat :=
  b.size * b.lane.byteWidth

/-- The numbers that the samples are read from, without a sign. -/
def words : SampleBuffer → List Nat
  | octet values => values.toList.map fun v => v.toUInt8.toNat
  | short values => values.toList.map fun v => v.toUInt16.toNat
  | float patterns => patterns.toList.map UInt32.toNat

/-- Append samples given by the numbers they are read from. -/
def appendWords (b : SampleBuffer) (words : List Nat) : SampleBuffer :=
  match b with
  | octet values => octet (words.foldl (fun vs n => vs.push (UInt8.ofNat n).toInt8) values)
  | short values => short (words.foldl (fun vs n => vs.push (UInt16.ofNat n).toInt16) values)
  | float patterns => float (words.foldl (fun vs n => vs.push (UInt32.ofNat n)) patterns)

/-- The numbers that a payload spells in a lane and a byte order. -/
def payloadWords (lane : Lane) (order : ByteOrder) (payload : List UInt8) : List Nat :=
  (byteRuns (lane.byteWidth - 1) payload).map order.read

/-- Append the samples of a payload. -/
def extend (b : SampleBuffer) (payload : List UInt8) (order : ByteOrder) : SampleBuffer :=
  b.appendWords (payloadWords b.lane order payload)

/-- The samples as the bytes that carry them. -/
def toBytes (b : SampleBuffer) (order : ByteOrder) : List UInt8 :=
  b.words.flatMap (order.write b.lane.byteWidth)

@[simp] theorem lane_empty (lane : Lane) : (empty lane).lane = lane := by
  cases lane <;> rfl

@[simp] theorem size_empty (lane : Lane) : (empty lane).size = 0 := by
  cases lane <;> rfl

@[simp] theorem lane_appendWords (b : SampleBuffer) (words : List Nat) :
    (b.appendWords words).lane = b.lane := by
  cases b <;> rfl

@[simp] theorem lane_extend (b : SampleBuffer) (payload : List UInt8) (order : ByteOrder) :
    (b.extend payload order).lane = b.lane :=
  lane_appendWords b _

end SampleBuffer

end SddsReceiver
