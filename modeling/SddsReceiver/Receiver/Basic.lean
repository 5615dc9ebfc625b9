import SddsReceiver.Receiver.Ingest
import SddsReceiver.Receiver.Reconstruction

/-!
# A running stream

Both tasks of a stream with the pool that they share. One step is one operation of one task,
and every order of steps is a run. The pushes that have been handed on are kept in order.

Letting the reconstructing task run alone until it waits takes a number of steps that the
length of the queue bounds.
-/
namespace SddsReceiver

structure Receiver where
  /-- Datagrams in a receive batch, and frames taken at once. -/
  batch : Nat
  pool : Pool
  ingest : Ingest
  reconstruction : Reconstruction
  counters : Counters
  /-- Pushes handed on, oldest first. -/
  pushes : List Push
  deriving Repr

/-- One operation of one task. -/
inductive ReceiverStep where
  | ingest (reading : Reading)
  | reconstruct
  deriving DecidableEq, Repr

namespace Receiver

/-- A stream at its start, on a fresh pool. A batch holds one datagram at least. -/
def launch (capacity batch : Nat) (pipeline : Pipeline) (counters : Counters) : Receiver where
  batch := max batch 1
  pool := Pool.ofCapacity capacity
  ingest := .initial
  reconstruction := .ofPipeline pipeline
  counters := counters
  pushes := []

def ingestStep (r : Receiver) (reading : Reading) : Receiver :=
  let (ingest, pool, counters) := r.ingest.step r.pool r.counters r.batch reading
  { r with ingest := ingest, pool := pool, counters := counters }

def reconstructStep (s : Surroundings) (r : Receiver) : Receiver :=
  let (reconstruction, pool, counters, pushes) :=
    r.reconstruction.step r.pool r.counters r.batch s
  { r with
    reconstruction := reconstruction
    pool := pool
    counters := counters
    pushes := r.pushes ++ pushes }

def step (s : Surroundings) (r : Receiver) : ReceiverStep → Receiver
  | .ingest reading => r.ingestStep reading
  | .reconstruct => r.reconstructStep s

/-- Steps in a given order. -/
def run (s : Surroundings) (r : Receiver) (steps : List ReceiverStep) : Receiver :=
  steps.foldl (step s) r

/-- Steps enough for the reconstructing task to use up the queue and, if the pool is closed,
to end. -/
def settleBound (r : Receiver) : Nat := 3 * r.pool.full.length + 8

/-- Let the reconstructing task run until it waits or has ended. -/
def settle (s : Surroundings) (r : Receiver) : Receiver :=
  Nat.repeat (reconstructStep s) r.settleBound r

/-- Queue the batch that is being read and fill the hand up. -/
def commit (r : Receiver) : Receiver :=
  (r.ingestStep .nothing).ingestStep .nothing

/-- Cancel the receiving task and let it run to its end. It may have to end a batch first. -/
def cancel (r : Receiver) : Receiver :=
  Nat.repeat (ingestStep · .cancelled) 7 r

/-- Cancel the stream, and let both tasks run to their ends. -/
def shutdown (s : Surroundings) (r : Receiver) : Receiver :=
  r.cancel.settle s

end Receiver

end SddsReceiver
