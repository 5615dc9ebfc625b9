import SddsReceiver.Output.Channel

/-!
# A stream cut at its first end mark

The output of a receiver outlives each of its streams. Cut at the first item that ends a
stream, it is the output of one stream: that item is the last, and afterwards the source is
not looked at again.
-/
namespace SddsReceiver.Output

structure UntilEnd (σ : Type) where
  source : σ
  /-- The last item, or the end of the source, has been seen. -/
  done : Bool
  deriving DecidableEq, Repr

namespace UntilEnd

variable {σ α : Type}

def ofSource (source : σ) : UntilEnd σ := ⟨source, false⟩

/-- What is found ends the cut stream. -/
def isLast (endsStream : α → Bool) : Poll α → Bool
  | .item value => endsStream value
  | .pending => false
  | .ended => true

/-- Look for the next item, in the way in which the source is looked at. -/
def poll (look : σ → σ × Poll α) (endsStream : α → Bool) (s : UntilEnd σ) :
    UntilEnd σ × Poll α :=
  if s.done then (s, .ended)
  else
    let (source, found) := look s.source
    (⟨source, isLast endsStream found⟩, found)

end UntilEnd

end SddsReceiver.Output
