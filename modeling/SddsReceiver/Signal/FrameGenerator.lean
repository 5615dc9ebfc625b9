import SddsReceiver.SequenceTracker
import SddsReceiver.Signal.PacketBuilder

/-!
# Clean streams

A generator makes the packets of a stream without faults: sequence numbers follow one another
and time tags advance by one frame period, or by a fixed step. Rate and time may be changed
between two packets.
-/
namespace SddsReceiver.Signal

structure FrameGenerator where
  sequenceNumber : UInt16
  /-- Picoseconds since the start of the year. -/
  timePs : Nat
  rateHertz : Float
  bits : UInt8
  /-- Picoseconds between packets, where they do not follow from the rate. -/
  stepPs : Option Float
  template : PacketBuilder
  deriving Repr

namespace FrameGenerator

def initial (rateHertz : Float) (bits : UInt8) : FrameGenerator where
  sequenceNumber := 0
  timePs := 0
  rateHertz := rateHertz
  bits := bits
  stepPs := none
  template := PacketBuilder.initial.setAll [.bitsPerSample bits, .sampleRate rateHertz]

/-- Make the samples complex or real. -/
def setComplex (g : FrameGenerator) (on : Bool) : FrameGenerator :=
  { g with template := g.template.set (.complex on) }

/-- Picoseconds from one packet to the next. -/
def periodPs (g : FrameGenerator) : Float :=
  match g.stepPs with
  | some step => step
  | none => 8192.0 / g.bits.toFloat / g.rateHertz * 1e12

/-- Move the time without making a packet, to zero at the least. -/
def offset (g : FrameGenerator) (ps : Int) : FrameGenerator :=
  { g with timePs := (g.timePs + ps).toNat }

/-- Change the rate from the next packet on. -/
def setRate (g : FrameGenerator) (hertz : Float) : FrameGenerator :=
  { g with rateHertz := hertz, template := g.template.set (.sampleRate hertz) }

/-- The next packet's settings, and the generator after it. -/
def next (g : FrameGenerator) : FrameGenerator × PacketBuilder :=
  ({ g with
      timePs := g.timePs + Rounding.truncateToNat g.periodPs.round
      sequenceNumber := SequenceNumber.successor g.sequenceNumber },
    g.template.setAll
      [.sequenceNumber g.sequenceNumber, .time (TimeTag.ofPicoseconds g.timePs)])

/-- The next packets, and the generator after them. -/
def nextAll (g : FrameGenerator) : Nat → FrameGenerator × List PacketBuilder
  | 0 => (g, [])
  | n + 1 =>
      let (after, packet) := g.next
      let (last, rest) := after.nextAll n
      (last, packet :: rest)

end FrameGenerator

end SddsReceiver.Signal
