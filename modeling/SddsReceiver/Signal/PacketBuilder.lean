import SddsReceiver.Header.Basic

/-!
# Packets made to order

A packet is made from settings that are applied one after another to a plain one: standard
format, data mode 2, 16-bit real samples at 10 MHz with a valid time tag of zero, and an
empty payload. Each setting changes its own field and no other.
-/
namespace SddsReceiver.Signal

structure PacketBuilder where
  header : Header
  payload : List UInt8
  deriving DecidableEq, Repr

/-- One setting of a packet. -/
inductive PacketSetting where
  | sequenceNumber (n : UInt16)
  /-- The sample width, of which five bits are kept; 32 is a width of its own. -/
  | bitsPerSample (bits : UInt8)
  | standard (on : Bool)
  | complex (on : Bool)
  | parity (on : Bool)
  /-- The two reserved bits. -/
  | reserved (bits : UInt8)
  | timeValid (valid : Bool)
  | time (tag : TimeTag)
  | sampleRate (hertz : Float)
  | frequency (field : Int64)
  | frequencyRate (rate : Int32)
  | payload (bytes : List UInt8)
  deriving Repr

namespace PacketBuilder

def initial : PacketBuilder where
  header :=
    { format := ⟨0x8210⟩
      sequenceNumber := 0
      timeTagInfo := ⟨0x6000⟩
      millisecondDelta := 0
      time := .zero
      frequencyRate := 0
      frequency := Header.frequencyField 1e7
      auxiliary := Vector.replicate auxiliaryLength 0 }
  payload := []

/-- Set or clear a bit of the format word. -/
def putFormat (b : PacketBuilder) (mask : UInt16) (on : Bool) : PacketBuilder :=
  { b with header := { b.header with format := b.header.format.put mask on } }

/-- Apply one setting. -/
def set (b : PacketBuilder) : PacketSetting → PacketBuilder
  | .sequenceNumber n => { b with header := { b.header with sequenceNumber := n } }
  | .bitsPerSample bits =>
      { b with header := { b.header with format := b.header.format.putBitsPerSample bits } }
  | .standard on => b.putFormat Header.FormatWord.standardMask on
  | .complex on => b.putFormat Header.FormatWord.complexMask on
  | .parity on => b.putFormat Header.FormatWord.parityMask on
  | .reserved bits =>
      { b with header := { b.header with format := b.header.format.putReserved bits } }
  | .timeValid valid =>
      { b with header := { b.header with timeTagInfo := b.header.timeTagInfo.putTimeValid valid } }
  | .time tag => { b with header := { b.header with time := tag } }
  | .sampleRate hertz =>
      { b with header := { b.header with frequency := Header.frequencyField hertz } }
  | .frequency field => { b with header := { b.header with frequency := field } }
  | .frequencyRate rate => { b with header := { b.header with frequencyRate := rate } }
  | .payload bytes => { b with payload := bytes }

/-- Apply settings one after another. -/
def setAll (b : PacketBuilder) (settings : List PacketSetting) : PacketBuilder :=
  settings.foldl set b

/-- The packet, with the payload cut or padded with zeros to its length. -/
def build (b : PacketBuilder) : Packet := Packet.compose b.header b.payload

end PacketBuilder

end SddsReceiver.Signal
