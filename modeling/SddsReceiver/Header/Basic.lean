import SddsReceiver.Bytes
import SddsReceiver.TimeTag
import SddsReceiver.Header.FormatWord
import SddsReceiver.Header.TimeTagWord

/-!
# Headers and packets

A packet is 1080 bytes: a header of 56 bytes and a payload of 1024. The multi-byte fields of
the header are big endian and lie one after another without gaps, so a header is written by
joining its fields and read by cutting them off again.
-/
namespace SddsReceiver

def headerLength : Nat := 56
def payloadLength : Nat := 1024
def packetLength : Nat := headerLength + payloadLength

/-- Length of the opaque tail of the header. -/
def auxiliaryLength : Nat := 24

/-- A datagram of the one length that carries a frame. -/
structure Packet where
  bytes : List UInt8
  length_eq : bytes.length = packetLength
  deriving DecidableEq, Repr

namespace Packet

def zero : Packet := ⟨List.replicate packetLength 0, List.length_replicate⟩

/-- What follows the header. -/
def payload (p : Packet) : List UInt8 :=
  p.bytes.drop headerLength

theorem length_payload (p : Packet) : p.payload.length = payloadLength := by
  simp [payload, p.length_eq, packetLength, headerLength]

/-- The big-endian number in `width` bytes from an offset on. -/
def field (p : Packet) (offset width : Nat) : Nat :=
  Bytes.bigToNat ((p.bytes.drop offset).take width)

end Packet

structure Header where
  format : Header.FormatWord
  sequenceNumber : UInt16
  timeTagInfo : Header.TimeTagWord
  millisecondDelta : UInt16
  time : TimeTag
  frequencyRate : Int32
  /-- Sample clock frequency, in units of 125 MHz / 2^63. -/
  frequency : Int64
  auxiliary : Vector UInt8 auxiliaryLength
  deriving DecidableEq, Repr

namespace Header

/-- Hertz in one unit of the frequency field. -/
def hertzPerUnit : Float := 125000000.0 / 9223372036854775808.0

/-- Sample clock frequency in hertz. -/
def hertz (h : Header) : Float :=
  h.frequency.toFloat * hertzPerUnit

/-- The frequency field nearest to a frequency in hertz. -/
def frequencyField (hertz : Float) : Int64 :=
  (hertz / hertzPerUnit).round.toInt64

def timeValid (h : Header) : Bool := h.timeTagInfo.timeValid
def complex (h : Header) : Bool := h.format.complex
def bitsPerSample (h : Header) : UInt8 := h.format.bitsPerSample

/-- Whole samples in one payload; a width of zero has no such number. -/
def samplesPerFrame (h : Header) : Option Nat :=
  if h.bitsPerSample = 0 then none else some (payloadLength * 8 / h.bitsPerSample.toNat)

/-- The fields in wire order. -/
def toBytes (h : Header) : List UInt8 :=
  Bytes.bigOfNat 2 h.format.word.toNat
    ++ Bytes.bigOfNat 2 h.sequenceNumber.toNat
    ++ Bytes.bigOfNat 2 h.timeTagInfo.word.toNat
    ++ Bytes.bigOfNat 2 h.millisecondDelta.toNat
    ++ Bytes.bigOfNat 8 h.time.ticks.toNat
    ++ Bytes.bigOfNat 4 h.time.fraction.toNat
    ++ Bytes.bigOfNat 4 h.frequencyRate.toUInt32.toNat
    ++ Bytes.bigOfNat 8 h.frequency.toUInt64.toNat
    ++ h.auxiliary.toList

theorem length_toBytes (h : Header) : h.toBytes.length = headerLength := by
  simp only [toBytes, List.length_append, Bytes.length_bigOfNat, Vector.length_toList]
  rfl

/-- The fields at their offsets. -/
def ofPacket (p : Packet) : Header where
  format := ⟨UInt16.ofNat (p.field 0 2)⟩
  sequenceNumber := UInt16.ofNat (p.field 2 2)
  timeTagInfo := ⟨UInt16.ofNat (p.field 4 2)⟩
  millisecondDelta := UInt16.ofNat (p.field 6 2)
  time := ⟨UInt64.ofNat (p.field 8 8), UInt32.ofNat (p.field 16 4)⟩
  frequencyRate := (UInt32.ofNat (p.field 20 4)).toInt32
  frequency := (UInt64.ofNat (p.field 24 8)).toInt64
  auxiliary := ⟨((p.bytes.drop 32).take auxiliaryLength).toArray, by
    simp [p.length_eq, packetLength, headerLength, payloadLength, auxiliaryLength]⟩

end Header

namespace Packet

/-- A header followed by a payload, which is cut or padded with zeros to its length. -/
def compose (h : Header) (payload : List UInt8) : Packet where
  bytes := h.toBytes ++ (payload ++ List.replicate payloadLength 0).take payloadLength
  length_eq := by
    simp [Header.length_toBytes, packetLength, List.length_take]

theorem payload_compose (h : Header) (payload : List UInt8) :
    (compose h payload).payload =
      (payload ++ List.replicate payloadLength 0).take payloadLength :=
  List.drop_left' h.length_toBytes

end Packet

end SddsReceiver
