import SddsReceiver.Pool

/-!
# A pool between two tasks

Two tasks share one pool, and a third party asks for its figures. The lists are changed under
a lock. How long they are is noted beside them after every change, so that the figures are
read, and waiting for frames is decided, without the lock.
-/
namespace SddsReceiver

/-- Give one slot back, if the pool has room for it. -/
def Pool.giveBack (p : Pool) (slot : Packet) : Pool :=
  if p.held < p.capacity then { p with empty := p.empty ++ [slot] } else p

structure SharedPool extends Pool where
  /-- Empty slots, as noted last. -/
  emptyCount : Nat
  /-- Queued frames, as noted last. -/
  fullCount : Nat
  deriving DecidableEq, Repr

namespace SharedPool

/-- The pool with other contents, whose figures are noted. -/
def note (_ : SharedPool) (contents : Pool) : SharedPool :=
  ⟨contents, contents.empty.length, contents.full.length⟩

def initial : SharedPool := ⟨.initial, 0, 0⟩

/-- Let go of everything and start over with fresh slots. -/
def renew (s : SharedPool) (capacity : Nat) : SharedPool := s.note (.ofCapacity capacity)

/-- Let go of every slot and frame. -/
def shutdown (s : SharedPool) : SharedPool := s.note .shutdown

/-- Take up to `n` empty slots. -/
def take (s : SharedPool) (n : Nat) : SharedPool × List Packet :=
  let (rest, slots) := s.toPool.take n
  (s.note rest, slots)

/-- Queue frames; without any there is nothing to do. -/
def queue (s : SharedPool) (frames : List Frame) : SharedPool :=
  if frames.isEmpty then s else s.note (s.toPool.queue frames)

/-- Take up to `n` frames, oldest first. -/
def pop (s : SharedPool) (n : Nat) : SharedPool × List Frame :=
  let (rest, frames) := s.toPool.pop n
  (s.note rest, frames)

/-- Give slots back one after another. -/
def recycle (s : SharedPool) (slots : List Packet) : SharedPool :=
  s.note (slots.foldl Pool.giveBack s.toPool)

/-- No more frames will come. The contents are not touched. -/
def close (s : SharedPool) : SharedPool := { s with toPool := s.toPool.close }

/-- Someone waiting for frames need not wait. -/
def ready (s : SharedPool) : Bool := s.fullCount != 0 || s.closed

/-- The figures in one line. -/
def describe (s : SharedPool) : String :=
  "BufferPool \x7b capacity: " ++ toString s.capacity ++ ", empty: " ++ toString s.emptyCount ++
    ", full: " ++ toString s.fullCount ++ ", closed: " ++ toString s.closed ++ " \x7d"

end SharedPool

end SddsReceiver
