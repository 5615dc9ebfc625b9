import SddsReceiver.Header.Basic

/-!
# Clock consistency

The sample clock of one frame predicts the time tag of the next. A single interval that is
off by more than a microsecond is a jump; smaller deviations add up and are a slip once the
sum exceeds a nanosecond. Either one is counted and leaves no drift behind. A time tag that
falls back by almost a year has crossed into the next one and is not judged.

Only a frame with a valid time tag, a sample width and a positive frequency can be judged
against or serve as a reference. A complex stream advances its tags by one sample period per
value or per pair; the first judged interval that starts at a complex frame tells which, and
the choice stays.
-/
namespace SddsReceiver

inductive ClockEvent where
  /-- The frame became the reference. -/
  | seeded
  /-- The frame cannot be judged. -/
  | unchecked
  | consistent
  | yearRollover
  | accumulatorSlip (driftPs : Float)
  | jumpSlip (deviationPs : Float)
  deriving Repr

def ClockEvent.isSlip : ClockEvent → Bool
  | accumulatorSlip _ | jumpSlip _ => true
  | _ => false

/-- How the time tags of a complex stream advance over one frame. -/
inductive ComplexSpacing where
  /-- By one sample period for each value. -/
  | perSample
  /-- By one sample period for each pair of values. -/
  | perPair
  deriving DecidableEq, Repr

namespace ComplexSpacing

/-- The spacing whose expected interval is nearer to the actual one; a tie is per sample. -/
def closest (actualPs perSamplePs : Float) : ComplexSpacing :=
  if (actualPs - perSamplePs / 2.0).abs < (actualPs - perSamplePs).abs then perPair else perSample

def expectedPs (spacing : ComplexSpacing) (perSamplePs : Float) : Float :=
  match spacing with
  | perSample => perSamplePs
  | perPair => perSamplePs / 2.0

end ComplexSpacing

structure ClockTracker where
  /-- The tag of the reference, which is what the next frame is judged against. -/
  lastTag : Option TimeTag
  /-- Time from the reference to the next frame, were none lost and its samples real. -/
  periodPs : Option Float
  /-- Whether the latest frame to serve as reference is complex. It is read only beside a tag
  and a period, and forgetting the reference leaves it. -/
  complex : Bool
  driftPs : Float
  /-- Expected spacing of the last interval judged. -/
  expectedIncrementPs : Option Int64
  slips : Nat
  spacing : Option ComplexSpacing
  deriving Repr

namespace ClockTracker

def accumulatorThresholdPs : Float := 1000.0
def jumpThresholdPs : Float := 1000000.0

/-- A tag this far behind its predecessor belongs to the next year. -/
def rolloverThresholdPs : Float := -364.0 * 86400.0 * 1e12

/-- A gap of this many frames is not bridged. -/
def maxBridged : UInt16 := 1024

def initial : ClockTracker := ⟨none, none, false, 0.0, none, 0, none⟩

/-- Start over. -/
def reset (_ : ClockTracker) : ClockTracker := initial

/-- Time from a frame to the next, by its rate. A frame that cannot be judged has none. -/
def periodOf (h : Header) : Option Float :=
  match h.samplesPerFrame with
  | none => none
  | some samples =>
      if h.timeValid && h.hertz > 0.0 then some (samples.toUInt64.toFloat / h.hertz * 1e12)
      else none

def forget (t : ClockTracker) : ClockTracker :=
  { t with lastTag := none, periodPs := none }

/-- Let a frame serve as the reference. -/
def seed (t : ClockTracker) (h : Header) (periodPs : Float) : ClockTracker :=
  { t with lastTag := some h.time, periodPs := some periodPs, complex := h.complex }

/-- The spacing to judge an interval by, which the first interval of a complex stream picks. -/
def chooseSpacing (t : ClockTracker) (actualPs perSamplePs : Float) : ComplexSpacing :=
  t.spacing.getD (.closest actualPs perSamplePs)

/-- The interval expected where one at a spacing of samples would be `perSamplePs`, and the
spacing latched with it. -/
def expectation (t : ClockTracker) (actualPs perSamplePs : Float) (complex : Bool) :
    Float × Option ComplexSpacing :=
  if complex then
    let spacing := t.chooseSpacing actualPs perSamplePs
    (spacing.expectedPs perSamplePs, some spacing)
  else (perSamplePs, t.spacing)

/-- Judge a deviation from the expected interval. -/
def weigh (t : ClockTracker) (deviationPs : Float) : ClockTracker × ClockEvent :=
  if deviationPs.abs > jumpThresholdPs then
    ({ t with driftPs := 0.0, slips := t.slips + 1 }, .jumpSlip deviationPs)
  else
    let driftPs := t.driftPs + deviationPs
    if driftPs.abs > accumulatorThresholdPs then
      ({ t with driftPs := 0.0, slips := t.slips + 1 }, .accumulatorSlip driftPs)
    else
      ({ t with driftPs := driftPs }, .consistent)

/-- Judge an interval that starts at a complex frame or at one that is not. -/
def judge (t : ClockTracker) (actualPs perSamplePs : Float) (complex : Bool) :
    ClockTracker × ClockEvent :=
  if actualPs < rolloverThresholdPs then
    (t, .yearRollover)
  else
    let (expectedPs, spacing) := t.expectation actualPs perSamplePs complex
    weigh { t with expectedIncrementPs := some expectedPs.round.toInt64, spacing := spacing }
      (actualPs - expectedPs)

/-- Look at a frame before which `missing` frames were lost. A frame that is judged has taken
the place of the reference by then, whose complex flag is kept aside for it. -/
def observe (t : ClockTracker) (h : Header) (missing : UInt16) : ClockTracker × ClockEvent :=
  match periodOf h with
  | none => (t.forget, .unchecked)
  | some periodPs =>
      match t.lastTag, t.periodPs with
      | some last, some lastPeriodPs =>
          if missing < maxBridged then
            (t.seed h periodPs).judge (h.time.picosecondsSince last)
              (lastPeriodPs * (missing.toFloat + 1.0)) t.complex
          else (t.seed h periodPs, .seeded)
      | _, _ => (t.seed h periodPs, .seeded)

end ClockTracker

end SddsReceiver
