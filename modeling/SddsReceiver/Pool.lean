import SddsReceiver.Header.Decode

/-!
# The pool of packet slots

Empty slots leave the pool for the side that receives, come back filled as frames, and are
empty again when the other side has used them. Neither side waits for a slot: one takes what
is there. Frames leave in the order in which they came. A slot that comes back beyond the
capacity is let go.
-/
namespace SddsReceiver

structure Pool where
  capacity : Nat
  /-- Slots to fill; the last ones are taken first. -/
  empty : List Packet
  /-- Frames to use, oldest first. -/
  full : List Frame
  /-- No more frames will come. -/
  closed : Bool
  deriving DecidableEq, Repr

namespace Pool

/-- A pool without slots. -/
def initial : Pool := ⟨0, [], [], false⟩

/-- A pool of fresh slots, with which a pool starts over. -/
def ofCapacity (capacity : Nat) : Pool :=
  ⟨capacity, List.replicate capacity Packet.zero, [], false⟩

/-- The pool after every slot has been let go. -/
def shutdown : Pool := ⟨0, [], [], true⟩

/-- Take up to `n` empty slots. -/
def take (p : Pool) (n : Nat) : Pool × List Packet :=
  let kept := p.empty.length - n
  ({ p with empty := p.empty.take kept }, p.empty.drop kept)

/-- Queue frames. -/
def queue (p : Pool) (frames : List Frame) : Pool :=
  { p with full := p.full ++ frames }

/-- Take up to `n` frames, oldest first. -/
def pop (p : Pool) (n : Nat) : Pool × List Frame :=
  ({ p with full := p.full.drop n }, p.full.take n)

/-- Slots and frames in the pool. -/
def held (p : Pool) : Nat := p.empty.length + p.full.length

/-- Give slots back, as long as the pool has room for them. -/
def recycle (p : Pool) (slots : List Packet) : Pool :=
  { p with empty := p.empty ++ slots.take (p.capacity - p.held) }

/-- No more frames will come. -/
def close (p : Pool) : Pool := { p with closed := true }

/-- Someone waiting for frames need not wait. -/
def ready (p : Pool) : Bool := !p.full.isEmpty || p.closed

/-- The pool's figures in one line. -/
def describe (p : Pool) : String :=
  "BufferPool \x7b capacity: " ++ toString p.capacity ++ ", empty: " ++ toString p.empty.length ++
    ", full: " ++ toString p.full.length ++ ", closed: " ++ toString p.closed ++ " \x7d"

/-- A slot taken is a slot that was there, and none is lost. -/
theorem length_empty_take (p : Pool) (n : Nat) :
    (p.take n).1.empty.length + (p.take n).2.length = p.empty.length := by
  simp only [take, List.length_take, List.length_drop]
  omega

/-- Slots that are taken leave the pool. -/
theorem held_take (p : Pool) (n : Nat) : (p.take n).1.held + (p.take n).2.length = p.held := by
  have hempty := p.length_empty_take n
  have hfull : (p.take n).1.full = p.full := rfl
  rw [held, held, hfull]
  omega

theorem length_take (p : Pool) (n : Nat) : (p.take n).2.length = min n p.empty.length := by
  simp only [take, List.length_drop]
  omega

theorem take_of_empty {p : Pool} (h : p.empty = []) (n : Nat) : p.take n = (p, []) := by
  obtain ⟨capacity, empty, full, closed⟩ := p
  obtain rfl : empty = [] := h
  simp [take]

theorem length_pop (p : Pool) (n : Nat) : (p.pop n).2.length = min n p.full.length := by
  simp [pop]

/-- Frames popped and frames left are the frames that were queued. -/
theorem pop_append_full (p : Pool) (n : Nat) : (p.pop n).2 ++ (p.pop n).1.full = p.full :=
  List.take_append_drop n p.full

/-- Frames that are popped leave the pool. -/
theorem held_pop (p : Pool) (n : Nat) : (p.pop n).1.held + (p.pop n).2.length = p.held := by
  have hfull := congrArg List.length (p.pop_append_full n)
  have hempty : (p.pop n).1.empty = p.empty := rfl
  rw [List.length_append] at hfull
  rw [held, held, hempty]
  omega

theorem held_queue (p : Pool) (frames : List Frame) :
    (p.queue frames).held = p.held + frames.length := by
  simp only [queue, held, List.length_append]
  omega

/-- Slots are given back as far as there is room. -/
theorem held_recycle (p : Pool) (slots : List Packet) :
    (p.recycle slots).held = p.held + min slots.length (p.capacity - p.held) := by
  simp only [recycle, held, List.length_append, List.length_take]
  omega

/-- With room for all of them every slot is given back. -/
theorem recycle_of_room {p : Pool} {slots : List Packet} (h : p.held + slots.length ≤ p.capacity) :
    p.recycle slots = { p with empty := p.empty ++ slots } := by
  rw [recycle, List.take_of_length_le (by omega)]

end Pool

end SddsReceiver
