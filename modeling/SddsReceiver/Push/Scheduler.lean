import SddsReceiver.Push.Policy
import SddsReceiver.Samples.Buffer
import SddsReceiver.Sri.Basic
import SddsReceiver.Timestamp

/-!
# Batching frames into pushes

The scheduler joins frames into a batch and closes the batch when its policy says so or when
the description of the stream changes, so that a push never mixes descriptions. A push
carries the time of its first frame and the description of its last. Finishing closes the
open batch, adds an empty push that ends the stream, and leaves the scheduler idle.

A change of description that arrives on a withheld frame is announced by the next push.
-/
namespace SddsReceiver

structure Push where
  samples : SampleBuffer
  timestamp : Timestamp
  sri : Sri
  /-- The description differs from the one pushed before. -/
  sriChanged : Bool
  endOfStream : Bool
  /-- Frames joined in this push. -/
  frames : Nat
  deriving Repr

/-- A frame as the scheduler sees it. -/
structure Offer where
  payload : List UInt8
  order : ByteOrder
  timeValid : Bool
  timestamp : Timestamp
  sri : Sri
  sriChanged : Bool
  deriving Repr

structure Batch where
  samples : SampleBuffer
  frames : Nat
  /-- Time of the first frame. -/
  start : Timestamp
  sri : Sri
  sriChanged : Bool
  deriving Repr

namespace Batch

/-- The batch that a first frame opens. -/
def ofOffer (lane : Lane) (offer : Offer) (sriChanged : Bool) : Batch where
  samples := (SampleBuffer.empty lane).extend offer.payload offer.order
  frames := 1
  start := offer.timestamp
  sri := offer.sri
  sriChanged := sriChanged

/-- The batch with one more frame. -/
def add (b : Batch) (offer : Offer) (sriChanged : Bool) : Batch where
  samples := b.samples.extend offer.payload offer.order
  frames := b.frames + 1
  start := b.start
  sri := offer.sri
  sriChanged := b.sriChanged || sriChanged

def toPush (b : Batch) : Push where
  samples := b.samples
  timestamp := b.start
  sri := b.sri
  sriChanged := b.sriChanged
  endOfStream := false
  frames := b.frames

end Batch

inductive SchedulerState where
  /-- Frames are not taken. -/
  | idle
  | accumulating
  deriving DecidableEq, Repr

structure Scheduler where
  policy : PushPolicy
  state : SchedulerState
  lane : Option Lane
  batch : Option Batch
  /-- Validity of the last frame's time tag. -/
  lastValid : Option Bool
  /-- Start of the last batch pushed. -/
  lastStart : Option Timestamp
  /-- Description of the last batch pushed. -/
  lastSri : Option Sri
  /-- A change of description has still to be announced. -/
  sriPending : Bool
  /-- Frames withheld so far. -/
  withheld : Nat
  deriving Repr

namespace Scheduler

def ofPolicy (policy : PushPolicy) : Scheduler where
  policy := policy
  state := .idle
  lane := none
  batch := none
  lastValid := none
  lastStart := none
  lastSri := none
  sriPending := false
  withheld := 0

/-- Frames in the open batch. -/
def pending (s : Scheduler) : Nat :=
  match s.batch with
  | none => 0
  | some batch => batch.frames

def setPolicy (s : Scheduler) (policy : PushPolicy) : Scheduler :=
  { s with policy := policy }

/-- Take frames of a lane from now on. -/
def begin (s : Scheduler) (lane : Lane) : Scheduler :=
  { s with lane := some lane, state := .accumulating }

/-- Push the open batch, if there is one. -/
def flush (s : Scheduler) : Scheduler × List Push :=
  match s.batch with
  | none => (s, [])
  | some batch =>
      ({ s with batch := none, lastStart := some batch.start, lastSri := some batch.sri },
        [batch.toPush])

/-- Push the open batch under a condition. -/
def flushIf (s : Scheduler) (condition : Bool) : Scheduler × List Push :=
  if condition then s.flush else (s, [])

/-- The validity of time tags has changed with this frame. -/
def edgeAt (s : Scheduler) (valid : Bool) : Bool :=
  match s.lastValid with
  | none => false
  | some last => last != valid

/-- Join a frame to the open batch, or open one with it. -/
def append (s : Scheduler) (lane : Lane) (offer : Offer) : Scheduler :=
  let changed := s.sriPending || offer.sriChanged
  let batch := match s.batch with
    | none => Batch.ofOffer lane offer changed
    | some batch => batch.add offer changed
  { s with batch := some batch, sriPending := false }

/-- Leave a frame out. -/
def withhold (s : Scheduler) (offer : Offer) : Scheduler :=
  { s with withheld := s.withheld + 1, sriPending := s.sriPending || offer.sriChanged }

/-- The open batch has reached its limit. -/
def full (s : Scheduler) : Bool :=
  match s.batch with
  | none => false
  | some batch => decide (s.policy.batchLimit ≤ batch.frames)

/-- Take a frame in a lane. The open batch is closed before the frame when the frame starts
something new, and after it when the batch is full. -/
def take (s : Scheduler) (lane : Lane) (offer : Offer) : Scheduler × List Push :=
  let edge := s.edgeAt offer.timeValid
  let cut := offer.sriChanged || (edge && s.policy.cutsAt offer.timeValid)
  let (closed, before) := { s with lastValid := some offer.timeValid }.flushIf cut
  if s.policy.withholds offer.timeValid then (closed.withhold offer, before)
  else
    let joined := closed.append lane offer
    let (next, after) := joined.flushIf joined.full
    (next, before ++ after)

/-- Take a frame, unless the scheduler is idle or has no lane. -/
def offer (s : Scheduler) (offer : Offer) : Scheduler × List Push :=
  match s.lane, s.state with
  | some lane, .accumulating => s.take lane offer
  | _, _ => (s, [])

/-- Push what is left and end the stream. The end carries the time and description of the
last batch pushed; without one, the host's time and the description given. -/
def finish (s : Scheduler) (sri : Sri) (hostClock : Timestamp) : Scheduler × List Push :=
  let (closed, pushes) := s.flush
  let ending : Push :=
    { samples := SampleBuffer.empty (closed.lane.getD .octet)
      timestamp := closed.lastStart.getD hostClock
      sri := closed.lastSri.getD sri
      sriChanged := false
      endOfStream := true
      frames := 0 }
  ({ closed with
      state := .idle
      lastValid := none
      lastStart := none
      lastSri := none
      sriPending := false },
    pushes ++ [ending])

/-- Forget the lane and all that hangs on the stream; the count of withheld frames stays. -/
def reset (s : Scheduler) : Scheduler :=
  { ofPolicy s.policy with withheld := s.withheld }

end Scheduler

end SddsReceiver
