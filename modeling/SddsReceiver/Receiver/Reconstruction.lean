import SddsReceiver.Pipeline
import SddsReceiver.Pool

/-!
# The reconstructing task

The reconstructing task waits until frames are queued or the pool is closed, takes up to a
batch of them, runs them through the pipeline, gives their slots back and hands on the pushes.
It looks at the queue and at the closing of the pool in separate operations, and another task
may run between any two. When it finds the queue empty and then the pool closed it ends the
stream.
-/
namespace SddsReceiver

/-- What does not change while a stream runs, and what the host adds to it. -/
structure Surroundings where
  /-- The description that was given from outside. -/
  external : Option Sri
  /-- The host's clock. -/
  hostClock : Timestamp
  deriving Repr

/-- What the reconstructing task does next. -/
inductive ReconstructionPhase where
  /-- Look whether frames are queued. -/
  | checkQueue
  /-- Look whether the pool is closed, none being queued. -/
  | checkClosed
  /-- Take frames. -/
  | take
  /-- Give slots back, and hand on pushes. -/
  | giveBack (slots : List Packet) (pushes : List Push)
  /-- Look whether the pool is closed, none having been taken. -/
  | checkEnd
  | ended
  deriving Repr

structure Reconstruction where
  phase : ReconstructionPhase
  pipeline : Pipeline
  deriving Repr

namespace Reconstruction

def ofPipeline (pipeline : Pipeline) : Reconstruction := ⟨.checkQueue, pipeline⟩

/-- The task has nothing more to do. -/
def hasEnded (r : Reconstruction) : Bool :=
  match r.phase with
  | .ended => true
  | _ => false

/-- Slots of the frames that are being used. -/
def slotsHeld (r : Reconstruction) : List Packet :=
  match r.phase with
  | .giveBack slots _ => slots
  | _ => []

/-- The next operation, with the pushes that it hands on. -/
def step (r : Reconstruction) (pool : Pool) (c : Counters) (batch : Nat) (s : Surroundings) :
    Reconstruction × Pool × Counters × List Push :=
  match r.phase with
  | .checkQueue =>
      ({ r with phase := if pool.full.isEmpty then .checkClosed else .take }, pool, c, [])
  | .checkClosed => ({ r with phase := if pool.closed then .take else .checkQueue }, pool, c, [])
  | .take =>
      let (rest, frames) := pool.pop batch
      if frames.isEmpty then ({ r with phase := .checkEnd }, rest, c, [])
      else
        let (pipeline, counters, pushes) := r.pipeline.handleAll s.external c frames
        (⟨.giveBack (frames.map Frame.packet) pushes, pipeline⟩, rest, counters, [])
  | .giveBack slots pushes => ({ r with phase := .checkQueue }, pool.recycle slots, c, pushes)
  | .checkEnd =>
      if pool.closed then
        let (pipeline, pushes) := r.pipeline.finish s.hostClock
        (⟨.ended, pipeline⟩, pool, c, pushes)
      else ({ r with phase := .checkQueue }, pool, c, [])
  | .ended => (r, pool, c, [])

end Reconstruction

end SddsReceiver
