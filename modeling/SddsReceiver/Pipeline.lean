import SddsReceiver.ClockTracker
import SddsReceiver.Config.Basic
import SddsReceiver.Counters
import SddsReceiver.Header.Decode
import SddsReceiver.Push.Scheduler
import SddsReceiver.SequenceTracker
import SddsReceiver.Sri.Merger

/-!
# From frames to pushes

A pipeline holds all that one attachment remembers from frame to frame, over any number of
stops and starts: both trackers, the lane, the merged description, the scheduler and the
year. Every frame is tracked, whatever its width. Only a frame of the lane goes on: its
description is merged, its time is placed in the year, and the scheduler takes it.

The counters and the external description are shared with the rest of the receiver, so they
are handed in and the counters are handed back.
-/
namespace SddsReceiver

structure Pipeline where
  attachId : String
  configuredOrder : ByteOrder
  lane : Option Lane
  sequence : SequenceTracker
  clock : ClockTracker
  merger : SriMerger
  scheduler : Scheduler
  epoch : YearEpoch
  deriving Repr

namespace Pipeline

/-- The pipeline of a new attachment, in a year. -/
def ofConfig (attachId : String) (config : Config) (year : Int) : Pipeline where
  attachId := attachId
  configuredOrder := config.order
  lane := none
  sequence := .initial
  clock := .initial
  merger := .ofStream attachId
  scheduler := .ofPolicy config.pushPolicy
  epoch := .ofYear year

/-- The byte order in force under an external description. -/
def orderInForce (p : Pipeline) (external : Option Sri) : ByteOrder :=
  Sri.orderInForce external p.configuredOrder

/-- Note the sequence number and the time of a frame. -/
def track (p : Pipeline) (c : Counters) (h : Header) : Pipeline × Counters :=
  let (sequence, missing) := p.sequence.accept h.sequenceNumber
  let (clock, _) := p.clock.observe h missing
  ({ p with sequence := sequence, clock := clock },
    ((c.addDropped missing.toUInt64).setExpected sequence.expected).setTimeSlips
      (UInt64.ofNat clock.slips))

/-- The lane in which a width is accepted: the one that is fixed, or else the width's own. -/
def laneFor (p : Pipeline) (bits : UInt8) : Option Lane :=
  match p.lane with
  | some lane => if lane.bits = bits then some lane else none
  | none => Lane.ofBits bits

/-- Fix the lane, unless one is fixed already. -/
def fixLane (p : Pipeline) (c : Counters) (lane : Lane) : Pipeline × Counters :=
  match p.lane with
  | some _ => (p, c)
  | none => ({ p with lane := some lane }, c.setBitsPerSample lane.bits)

/-- The scheduler, woken up for a lane if it is idle. -/
def wakeScheduler (p : Pipeline) (lane : Lane) : Scheduler :=
  match p.scheduler.state with
  | .idle => p.scheduler.begin lane
  | .accumulating => p.scheduler

/-- The counters after a frame of the lane: its byte order and, if positive, its rate. -/
def noteStream (c : Counters) (order : ByteOrder) (h : Header) : Counters :=
  if h.hertz > 0.0 then (c.setOrder order).setSampleRate h.hertz else c.setOrder order

/-- Hand a frame of a lane to the scheduler. -/
def schedule (p : Pipeline) (external : Option Sri) (lane : Lane) (f : Frame) :
    Pipeline × List Push :=
  let (merger, sri, changed) := p.merger.merge external f.header
  let (epoch, timestamp) := p.epoch.timestamp f.header.time f.header.timeValid
  let (scheduler, pushes) := (p.wakeScheduler lane).offer
    { payload := f.payload
      order := p.orderInForce external
      timeValid := f.header.timeValid
      timestamp := timestamp
      sri := sri
      sriChanged := changed }
  ({ p with merger := merger, epoch := epoch, scheduler := scheduler }, pushes)

/-- Take a frame. -/
def handle (p : Pipeline) (external : Option Sri) (c : Counters) (f : Frame) :
    Pipeline × Counters × List Push :=
  let (tracked, counted) := p.track c f.header
  match tracked.laneFor f.header.bitsPerSample with
  | none => (tracked, counted, [])
  | some lane =>
      let (fixed, fixedCounters) := tracked.fixLane counted lane
      let (next, pushes) := fixed.schedule external lane f
      (next, noteStream fixedCounters (fixed.orderInForce external) f.header, pushes)

/-- Take frames one after another. -/
def handleAll (p : Pipeline) (external : Option Sri) (c : Counters) :
    List Frame → Pipeline × Counters × List Push
  | [] => (p, c, [])
  | f :: fs =>
      let (next, counted, pushes) := p.handle external c f
      let (last, counters, rest) := next.handleAll external counted fs
      (last, counters, pushes ++ rest)

/-- Push what is left and end the stream; the next push announces its description again. -/
def finish (p : Pipeline) (hostClock : Timestamp) : Pipeline × List Push :=
  let (scheduler, pushes) := p.scheduler.finish p.merger.current hostClock
  ({ p with scheduler := scheduler, merger := p.merger.invalidate }, pushes)

/-- Go on after an end, with the push settings of a configuration. -/
def resume (p : Pipeline) (external : Option Sri) (c : Counters) (config : Config) :
    Pipeline × Counters :=
  let scheduler := p.scheduler.setPolicy config.pushPolicy
  ({ p with
      configuredOrder := config.order
      scheduler := match p.lane with
        | none => scheduler
        | some lane => scheduler.begin lane },
    c.setOrder (Sri.orderInForce external config.order))

end Pipeline

end SddsReceiver
