/-!
# When batches are pushed

A batch is pushed when it has reached a number of frames. Two policies look at the validity
of time tags besides: one pushes whenever it changes, the other withholds frames without a
valid tag and pushes when the last valid one has passed. Under either of them the changes
delimit the batches, and size cuts a run only at twice the usual number.
-/
namespace SddsReceiver

structure PushPolicy where
  framesPerPush : Nat
  /-- Push when the validity of time tags changes. -/
  pushOnEdge : Bool
  /-- Withhold frames without a valid time tag. -/
  withholdInvalid : Bool
  deriving DecidableEq, Repr

namespace PushPolicy

/-- How far a run between two changes may outgrow the usual number. -/
def runFactor : Nat := 2

/-- Some decision rests on time tags. -/
def watchesTags (p : PushPolicy) : Bool :=
  p.pushOnEdge || p.withholdInvalid

/-- The number of frames at which a batch is pushed in any case. -/
def batchLimit (p : PushPolicy) : Nat :=
  if p.watchesTags then p.framesPerPush * runFactor else p.framesPerPush

/-- A change of validity to `valid` closes the open batch. -/
def cutsAt (p : PushPolicy) (valid : Bool) : Bool :=
  p.pushOnEdge || (p.withholdInvalid && !valid)

/-- A frame whose tag has this validity is never pushed. -/
def withholds (p : PushPolicy) (valid : Bool) : Bool :=
  p.withholdInvalid && !valid

end PushPolicy

end SddsReceiver
