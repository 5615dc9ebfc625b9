import SddsReceiver.Header.Basic
import SddsReceiver.Sri.Basic

/-!
# Joining what is told about a stream with what its packets say

A packet decides whether the samples are complex and, with a positive frequency, how far
apart they are. All else comes from the external description, or from the stream's name when
there is none. The merger remembers the last result and reports when a new one differs.
-/
namespace SddsReceiver

namespace Sri

/-- A description with the fields that a packet decides. -/
def withPacket (sri : Sri) (h : Header) : Sri :=
  let mode : Int16 := if h.complex then 1 else 0
  if h.hertz > 0.0 then { sri with mode := mode, xDelta := 1.0 / h.hertz }
  else { sri with mode := mode }

/-- What a packet and an external description say together. -/
def merged (external : Option Sri) (h : Header) (defaultId : String) : Sri :=
  (external.getD (ofStream defaultId)).withPacket h

end Sri

structure SriMerger where
  defaultId : String
  last : Option Sri
  deriving Repr

namespace SriMerger

def ofStream (defaultId : String) : SriMerger := ⟨defaultId, none⟩

/-- Merge for one packet. The flag tells that the result is not the one before it; an equal
result keeps the description that was given out first. -/
def merge (m : SriMerger) (external : Option Sri) (h : Header) : SriMerger × Sri × Bool :=
  let result := Sri.merged external h m.defaultId
  match m.last with
  | some last =>
      if last == result then (m, last, false) else (⟨m.defaultId, some result⟩, result, true)
  | none => (⟨m.defaultId, some result⟩, result, true)

/-- The last result, or what the name alone tells. -/
def current (m : SriMerger) : Sri :=
  m.last.getD (Sri.ofStream m.defaultId)

/-- Forget the last result, so that the next one is reported. -/
def invalidate (m : SriMerger) : SriMerger := ⟨m.defaultId, none⟩

end SriMerger

end SddsReceiver
