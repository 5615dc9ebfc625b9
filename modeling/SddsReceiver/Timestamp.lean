import SddsReceiver.CivilYear
import SddsReceiver.TimeTag

/-!
# Absolute time

A time tag restarts every January. A year epoch remembers the year it believes the stream to
be in and moves on when a valid tag falls back by more than half a year. Tags that are not
valid are stamped in the current year and change nothing.
-/
namespace SddsReceiver

/-- What a timestamp was taken from. -/
inductive TimeSource where
  | hostClock
  | timeTag
  deriving DecidableEq, Repr

/-- Seconds since the Unix epoch, whole and fractional, with the offset of the first sample
in samples. -/
structure Timestamp where
  source : TimeSource
  valid : Bool
  offset : Float
  wholeSeconds : Float
  fractionalSeconds : Float
  deriving Repr

namespace Timestamp

/-- A reading of the host clock. -/
def ofHostClock (wholeSeconds fractionalSeconds : Float) : Timestamp :=
  ⟨.hostClock, true, 0.0, wholeSeconds, fractionalSeconds⟩

/-- Both parts in one number, which cannot resolve a microsecond. -/
def seconds (t : Timestamp) : Float :=
  t.wholeSeconds + t.fractionalSeconds

end Timestamp

structure YearEpoch where
  year : Int
  /-- The Unix second at which the year begins. -/
  startSecond : Int
  /-- Whole seconds of the last valid tag. -/
  lastWhole : Option UInt64
  deriving DecidableEq, Repr

namespace YearEpoch

/-- A regression counts as a new year beyond this many seconds. -/
def rolloverSeconds : UInt64 := 182 * 86400

/-- The Unix second at which a year begins; a year out of the calendar's range has zero. -/
def startOf (year : Int) : Int :=
  if CivilYear.Supported year then CivilYear.startSecond year else 0

def ofYear (year : Int) : YearEpoch := ⟨year, startOf year, none⟩

/-- A tag this many seconds into its year lies in the year after the last valid one. -/
def rollsOver (e : YearEpoch) (whole : UInt64) : Bool :=
  match e.lastWhole with
  | none => false
  | some last => decide (whole < last) && decide (last - whole > rolloverSeconds)

/-- The epoch in the year after, which has its own start. -/
def rollOver (e : YearEpoch) : YearEpoch :=
  { e with year := e.year + 1, startSecond := startOf (e.year + 1) }

/-- The epoch after a tag. -/
def advance (e : YearEpoch) (time : TimeTag) (valid : Bool) : YearEpoch :=
  if valid then
    let reached := if e.rollsOver time.wholeSeconds then e.rollOver else e
    { reached with lastWhole := some time.wholeSeconds }
  else e

/-- A tag as an absolute time in the current year. -/
def stamp (e : YearEpoch) (time : TimeTag) (valid : Bool) : Timestamp where
  source := .timeTag
  valid := valid
  offset := 0.0
  wholeSeconds := Rounding.ofInt (e.startSecond + time.wholeSeconds.toNat)
  fractionalSeconds := time.fractionalSeconds

/-- Move on to a tag and stamp it in the year reached. -/
def timestamp (e : YearEpoch) (time : TimeTag) (valid : Bool) : YearEpoch × Timestamp :=
  let next := e.advance time valid
  (next, next.stamp time valid)

@[simp] theorem advance_invalid (e : YearEpoch) (time : TimeTag) :
    e.advance time false = e := rfl

end YearEpoch

end SddsReceiver
