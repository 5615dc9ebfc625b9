import SddsReceiver.Rounding

/-!
# Time tags

A time tag counts ticks of 250 ps since the start of the year and divides one tick further
into 2^32 parts. The pair is one 96-bit number of sub-ticks, on which distances are exact;
only their conversion to picoseconds rounds.
-/
namespace SddsReceiver

structure TimeTag where
  ticks : UInt64
  fraction : UInt32
  deriving DecidableEq, Repr

namespace TimeTag

def picosecondsPerTick : Nat := 250

def ticksPerSecond : UInt64 := 4000000000

/-- Parts of one tick: 2^32. -/
def partsPerTick : Nat := 4294967296

def zero : TimeTag := ⟨0, 0⟩

/-- The tag at a distance from the start of the year, rounded down to a sub-tick; the
tick count keeps its low 64 bits. -/
def ofPicoseconds (ps : Nat) : TimeTag :=
  ⟨UInt64.ofNat (ps / picosecondsPerTick),
    UInt32.ofNat (ps % picosecondsPerTick * partsPerTick / picosecondsPerTick)⟩

/-- The tag as one number, in units of 250 ps / 2^32. -/
def subTicks (t : TimeTag) : Nat :=
  t.ticks.toNat * partsPerTick + t.fraction.toNat

/-- The tag with a given sub-tick count, modulo 2^96. -/
def ofSubTicks (n : Nat) : TimeTag :=
  ⟨UInt64.ofNat (n / partsPerTick), UInt32.ofNat n⟩

/-- Ticks decide the order, and the fraction decides between equal ticks. -/
def compare (a b : TimeTag) : Ordering :=
  (Ord.compare a.ticks b.ticks).then (Ord.compare a.fraction b.fraction)

/-- The signed distance from an earlier tag, in picoseconds. -/
def picosecondsSince (t earlier : TimeTag) : Float :=
  Rounding.ofInt ((t.subTicks : Int) - earlier.subTicks) * 250.0 / 4294967296.0

/-- Whole seconds since the start of the year. -/
def wholeSeconds (t : TimeTag) : UInt64 :=
  t.ticks / ticksPerSecond

/-- What the whole seconds leave, in seconds. -/
def fractionalSeconds (t : TimeTag) : Float :=
  (t.ticks % ticksPerSecond).toFloat / 4000000000.0
    + t.fraction.toFloat * (250.0 * 1e-12) / 4294967296.0

end TimeTag

end SddsReceiver
