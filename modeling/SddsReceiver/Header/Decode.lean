import SddsReceiver.Header.Basic
import SddsReceiver.Text.Hex

/-!
# Accepting a datagram

A datagram is a frame when it has the length of a packet, the reserved bits of its format
word are clear and it is no parity frame. The length is looked at first and the reserved
bits before the parity bit, so a datagram with several faults is refused for the first of
them. The byte order of the payload plays no part here.
-/
namespace SddsReceiver

/-- Why a datagram is not a frame. -/
inductive Malformation where
  | length (bytes : Nat)
  | reservedBits (format : Header.FormatWord)
  | parityFrame
  deriving DecidableEq, Repr

namespace Malformation

def describe : Malformation → String
  | length bytes => s!"expected {packetLength} bytes, got {bytes}"
  | reservedBits format =>
      s!"reserved format bits set (0x{Text.Hex.padded 4 format.word.toNat})"
  | parityFrame => "parity frames are not supported"

end Malformation

/-- A datagram as a packet, if it has the length of one. -/
def Packet.ofBytes (bytes : List UInt8) : Except Malformation Packet :=
  if h : bytes.length = packetLength then .ok ⟨bytes, h⟩ else .error (.length bytes.length)

/-- The header of a packet that carries samples. -/
def Packet.header (p : Packet) : Except Malformation Header :=
  let header := Header.ofPacket p
  if header.format.reserved != 0 then .error (.reservedBits header.format)
  else if header.format.parity then .error .parityFrame
  else .ok header

/-- The header of a datagram, if it is a frame. -/
def Header.decode (bytes : List UInt8) : Except Malformation Header := do
  let packet ← Packet.ofBytes bytes
  packet.header

/-- A packet with its header read, and its place among the packets received. -/
structure Frame where
  header : Header
  packet : Packet
  arrival : Nat
  deriving DecidableEq, Repr

namespace Frame

def payload (f : Frame) : List UInt8 := f.packet.payload

/-- Read a datagram as the frame at a place in arrival order. -/
def decode (bytes : List UInt8) (arrival : Nat) : Except Malformation Frame := do
  let packet ← Packet.ofBytes bytes
  let header ← packet.header
  return ⟨header, packet, arrival⟩

end Frame

end SddsReceiver
