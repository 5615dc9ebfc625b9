/-!
# Frame sequence numbers

Sequence numbers grow by one and wrap at 65536. One value in every 32 is set aside for a
parity frame that is never sent, so the successor of a number steps over it. The distance
from the number expected to the number received, modulo 65536, is the count of frames lost;
a repeated number therefore counts as almost a whole turn.
-/
namespace SddsReceiver

namespace SequenceNumber

def parityInterval : UInt16 := 32

/-- The number is set aside for a parity frame. -/
def isParitySlot (n : UInt16) : Bool :=
  n % parityInterval == parityInterval - 1

/-- The number of the data frame that follows. -/
def successor (n : UInt16) : UInt16 :=
  if isParitySlot (n + 1) then n + 2 else n + 1

end SequenceNumber

structure SequenceTracker where
  /-- The number due next, once a frame has been seen. -/
  expected : Option UInt16
  droppedTotal : Nat
  deriving DecidableEq, Repr

namespace SequenceTracker

def initial : SequenceTracker := ⟨none, 0⟩

/-- Frames missing before a frame with this number. -/
def missingBefore (t : SequenceTracker) (n : UInt16) : UInt16 :=
  match t.expected with
  | none => 0
  | some expected => n - expected

/-- Take note of a frame, and say how many are missing before it. -/
def accept (t : SequenceTracker) (n : UInt16) : SequenceTracker × UInt16 :=
  let missing := t.missingBefore n
  (⟨some (SequenceNumber.successor n), t.droppedTotal + missing.toNat⟩, missing)

/-- Take note of several frames, and say how many are missing before each. -/
def acceptAll (t : SequenceTracker) : List UInt16 → SequenceTracker × List UInt16
  | [] => (t, [])
  | n :: ns =>
      let (next, missing) := t.accept n
      let (last, rest) := next.acceptAll ns
      (last, missing :: rest)

end SequenceTracker

end SddsReceiver
