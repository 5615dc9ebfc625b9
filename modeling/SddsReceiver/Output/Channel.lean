/-!
# Channels to a consumer

A channel is a queue without a bound between any number of senders and one consumer. Sending
fails once the consumer is gone. The consumer finds an item, or nothing yet, or the end when
the queue is empty and every sender is gone.
-/
namespace SddsReceiver.Output

/-- What a consumer finds when it looks for the next item. -/
inductive Poll (α : Type) where
  | item (value : α)
  /-- Nothing is there yet. -/
  | pending
  | ended
  deriving DecidableEq, Repr

structure Channel (α : Type) where
  /-- Items on their way, oldest first. -/
  queue : List α
  senders : Nat
  /-- The consumer is still there. -/
  consumed : Bool
  deriving DecidableEq, Repr

namespace Channel

variable {α : Type}

/-- A channel with one sender. -/
def initial : Channel α := ⟨[], 1, true⟩

/-- Send an item, if the consumer is there to take it. -/
def send? (c : Channel α) (value : α) : Option (Channel α) :=
  if c.consumed then some { c with queue := c.queue ++ [value] } else none

/-- One more sender, if there is one to be like. -/
def addSender (c : Channel α) : Channel α :=
  { c with senders := if c.senders = 0 then 0 else c.senders + 1 }

def dropSender (c : Channel α) : Channel α :=
  { c with senders := c.senders - 1 }

/-- The consumer goes, and what is on its way is lost. -/
def dropConsumer (c : Channel α) : Channel α := ⟨[], c.senders, false⟩

/-- Look for the next item. -/
def poll (c : Channel α) : Channel α × Poll α :=
  match c.queue with
  | value :: rest => ({ c with queue := rest }, .item value)
  | [] => (c, if c.senders = 0 then .ended else .pending)

/-- Take an item if one is there, with no difference made between nothing yet and the end. -/
def tryTake (c : Channel α) : Channel α × Poll α :=
  match c.queue with
  | value :: rest => ({ c with queue := rest }, .item value)
  | [] => (c, .ended)

end Channel

end SddsReceiver.Output
