import SddsReceiver.Counters
import SddsReceiver.Pool

/-!
# The receiving task

The receiving task keeps slots in hand, reads datagrams into them and queues the frames batch
by batch. It goes from one operation on the shared pool to the next, so that another task may
run between any two of them. A datagram is dropped when neither hand nor pool has a slot for
it; it never waits. When it is cancelled it queues what it has, gives its slots back and
closes the pool.
-/
namespace SddsReceiver

/-- What a source answers to a read. -/
inductive Reading where
  | datagram (bytes : List UInt8)
  | failure
  /-- Nothing has arrived yet. -/
  | nothing
  | cancelled
  deriving DecidableEq, Repr

/-- What the receiving task does next. -/
inductive IngestPhase where
  /-- Take the first slots. -/
  | reserve
  /-- Wait for a datagram. -/
  | await
  /-- Read what has already arrived, up to a batch. -/
  | drain
  /-- Fill the hand up again. -/
  | topUp
  | lastQueue
  | lastTopUp
  | giveBack
  | close
  | ended
  deriving DecidableEq, Repr

structure Ingest where
  phase : IngestPhase
  /-- Slots in hand; the last one is filled first. -/
  hand : List Packet
  /-- Frames of the batch that is being read. -/
  filled : List Frame
  /-- Place of the next frame in arrival order. -/
  arrival : Nat
  deriving DecidableEq, Repr

namespace Ingest

/-- Room for one datagram; twice a packet, so that none is cut to a packet's length. -/
def scratchLength : Nat := 2 * packetLength

def initial : Ingest := ⟨.reserve, [], [], 0⟩

/-- Slots in hand, after taking some from the pool if there are none. -/
def ensureHand (i : Ingest) (pool : Pool) (batch : Nat) : Ingest × Pool :=
  if i.hand.isEmpty then
    let (rest, taken) := pool.take batch
    ({ i with hand := taken }, rest)
  else (i, pool)

/-- Fill a slot in hand with a packet, or drop the packet when there is none. -/
def fill (i : Ingest) (packet : Packet) (header : Header) : Ingest :=
  if i.hand.isEmpty then i
  else
    { i with
      hand := i.hand.dropLast
      filled := i.filled ++ [⟨header, packet, i.arrival⟩]
      arrival := i.arrival + 1 }

/-- Put a datagram into a slot, if it is a frame and a slot is free. -/
def place (i : Ingest) (pool : Pool) (c : Counters) (batch : Nat) (bytes : List UInt8) :
    Ingest × Pool × Counters :=
  let counted := c.addReceived 1
  match Frame.decode bytes i.arrival with
  | .error _ => (i, pool, counted.addMalformed 1)
  | .ok frame =>
      let (ready, rest) := i.ensureHand pool batch
      (ready.fill frame.packet frame.header, rest, counted)

/-- Fill the hand up to a batch. -/
def topUp (i : Ingest) (pool : Pool) (batch : Nat) : Ingest × Pool :=
  let (rest, taken) := pool.take (batch - i.hand.length)
  ({ i with hand := i.hand ++ taken }, rest)

/-- Queue the frames of the batch and go on to a phase. -/
def queue (i : Ingest) (pool : Pool) (next : IngestPhase) : Ingest × Pool :=
  ({ i with filled := [], phase := next }, pool.queue i.filled)

/-- The next operation reads from the source. -/
def reads (i : Ingest) (batch : Nat) : Bool :=
  match i.phase with
  | .await => true
  | .drain => decide (i.filled.length < batch)
  | _ => false

/-- The next operation, given what the source answers to a read. -/
def step (i : Ingest) (pool : Pool) (c : Counters) (batch : Nat) (reading : Reading) :
    Ingest × Pool × Counters :=
  match i.phase with
  | .reserve =>
      let (rest, taken) := pool.take batch
      ({ i with hand := taken, phase := .await }, rest, c)
  | .await =>
      match reading with
      | .datagram bytes =>
          let (placed, rest, counted) := i.place pool c batch (bytes.take scratchLength)
          ({ placed with phase := .drain }, rest, counted)
      | .cancelled => ({ i with phase := .lastQueue }, pool, c)
      | .failure | .nothing => (i, pool, c)
  | .drain =>
      match reading with
      | .datagram bytes =>
          if i.filled.length < batch then i.place pool c batch (bytes.take scratchLength)
          else
            let (queued, filled) := i.queue pool .topUp
            (queued, filled, c)
      | .failure | .nothing | .cancelled =>
          let (queued, filled) := i.queue pool .topUp
          (queued, filled, c)
  | .topUp =>
      let (ready, rest) := i.topUp pool batch
      ({ ready with phase := .await }, rest, c)
  | .lastQueue =>
      let (queued, filled) := i.queue pool .lastTopUp
      (queued, filled, c)
  | .lastTopUp =>
      let (ready, rest) := i.topUp pool batch
      ({ ready with phase := .giveBack }, rest, c)
  | .giveBack => ({ i with hand := [], phase := .close }, pool.recycle i.hand, c)
  | .close => ({ i with phase := .ended }, pool.close, c)
  | .ended => (i, pool, c)

end Ingest

end SddsReceiver
