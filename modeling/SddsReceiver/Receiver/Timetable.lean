import SddsReceiver.Receiver.Basic

/-!
# A stream in virtual time

Datagrams and failures come in bursts a second apart, and time passes only when the receiving
task has to wait. Within a burst the receiving task never gives way. It waits for the next
burst, and for a while after each failed read: the time doubles with every failure in a row
up to a limit. While it waits the reconstructing task uses up what is queued. Every read that
may wait is noted with its time and with what is left of the burst.
-/
namespace SddsReceiver

/-- What a source holds ready. -/
inductive Arrival where
  | datagram (bytes : List UInt8)
  | failure
  deriving DecidableEq, Repr

def Arrival.reading : Arrival → Reading
  | datagram bytes => .datagram bytes
  | failure => .failure

structure Timetable where
  receiver : Receiver
  /-- Milliseconds since the start. -/
  now : Nat
  /-- Time of each read that may wait, with what was left of the burst; latest first. -/
  calls : List (Nat × Nat)
  /-- Failed reads in a row. -/
  failures : Nat
  deriving Repr

namespace Timetable

/-- Milliseconds between two bursts. -/
def burstGap : Nat := 1000

/-- Milliseconds to wait after a number of failures in a row. -/
def backOff (failures : Nat) : Nat := 50 <<< min failures 5

/-- The receiving task has taken its slots and asks for the first datagram. -/
def start (receiver : Receiver) : Timetable :=
  ⟨receiver.ingestStep .nothing, 0, [(0, 0)], 0⟩

/-- Wait for a time, while the reconstructing task runs. -/
def wait (s : Surroundings) (t : Timetable) (time : Nat) : Timetable :=
  { t with receiver := t.receiver.settle s, now := t.now + time }

/-- Ask for a datagram with so much left of the burst. -/
def ask (t : Timetable) (left : Nat) : Timetable :=
  { t with calls := (t.now, left) :: t.calls }

/-- End the batch that is being read and ask for the next datagram. -/
def endBatch (t : Timetable) (left : Nat) : Timetable :=
  { t with receiver := t.receiver.commit }.ask left

/-- A batch is being read. -/
def draining (t : Timetable) : Bool := t.receiver.ingest.phase == .drain

/-- A batch is being read, and it is full. -/
def batchFull (t : Timetable) : Bool :=
  t.draining && decide (t.receiver.batch ≤ t.receiver.ingest.filled.length)

/-- Take one arrival of a burst in which so many follow. -/
def arrive (s : Surroundings) (t : Timetable) (arrival : Arrival) (left : Nat) : Timetable :=
  let t := if t.batchFull then t.endBatch (left + 1) else t
  match arrival with
  | .datagram bytes =>
      { t with
        receiver := t.receiver.ingestStep (.datagram bytes)
        failures := 0 }
  | .failure =>
      if t.draining then t.endBatch left
      else
        let failures := t.failures + 1
        let rested := t.wait s (backOff failures)
        { rested with failures := failures }.ask left

/-- Take the arrivals of a burst one after another. -/
def burst (s : Surroundings) (t : Timetable) : List Arrival → Timetable
  | [] => if t.draining then t.endBatch 0 else t
  | arrival :: rest => (t.arrive s arrival rest.length).burst s rest

/-- Take bursts, waiting before each of them. -/
def bursts (s : Surroundings) (t : Timetable) : List (List Arrival) → Timetable
  | [] => t
  | first :: rest => ((t.wait s burstGap).burst s first).bursts s rest

/-- Take bursts, the first of them without waiting, and wait after the last one. -/
def play (s : Surroundings) (receiver : Receiver) (script : List (List Arrival)) : Timetable :=
  let t := match script with
    | [] => start receiver
    | first :: rest => ((start receiver).burst s first).bursts s rest
  t.wait s burstGap

end Timetable

end SddsReceiver
