import SddsReceiver.Proofs.Pipeline.Calls
import SddsReceiver.Receiver.Basic

/-!
# The receiving task beside others

Others share the pool with the receiving task. They take frames and give slots back between any
two of its operations, and write figures of their own beside the task's. That is all that the
task can meet: a run of a stream, in any order of steps, is such a history, with the same
readings in the same order. What holds of every history holds of every run.
-/
namespace SddsReceiver

/-- The receiving task beside a pool that others use. -/
structure Reception where
  batch : Nat
  pool : Pool
  ingest : Ingest
  counters : Counters
  /-- Frames that others have taken, oldest first. -/
  popped : List Frame
  deriving Repr

inductive ReceptionEvent where
  | ingest (reading : Reading)
  | pop (n : Nat)
  | recycle (slots : List Packet)
  /-- Another task writes its figures. -/
  | note (figures : Counters)

namespace Reception

/-- The receiving task at its start, on any pool. A batch holds one datagram at least. -/
def start (pool : Pool) (batch : Nat) (counters : Counters) : Reception :=
  ⟨max batch 1, pool, .initial, counters, []⟩

def step (r : Reception) : ReceptionEvent → Reception
  | .ingest reading =>
      let (ingest, pool, counters) := r.ingest.step r.pool r.counters r.batch reading
      { r with ingest := ingest, pool := pool, counters := counters }
  | .pop n =>
      let (rest, frames) := r.pool.pop n
      { r with pool := rest, popped := r.popped ++ frames }
  | .recycle slots => { r with pool := r.pool.recycle slots }
  | .note figures =>
      { r with
        counters :=
          { figures with received := r.counters.received, malformed := r.counters.malformed } }

/-- The task after a log of events, the latest of which comes first. -/
def after (first : Reception) : List ReceptionEvent → Reception
  | [] => first
  | e :: earlier => (first.after earlier).step e

theorem after_append (first : Reception) (later log : List ReceptionEvent) :
    first.after (later ++ log) = (first.after log).after later := by
  induction later with
  | nil => rfl
  | cons e later ih => rw [List.cons_append, after, after, ih]

end Reception

def ReceptionEvent.reading? : ReceptionEvent → Option Reading
  | .ingest reading => some reading
  | .pop _ | .recycle _ | .note _ => none

def ReceiverStep.reading? : ReceiverStep → Option Reading
  | .ingest reading => some reading
  | .reconstruct => none

namespace Receiver

def reception (r : Receiver) (popped : List Frame) : Reception :=
  ⟨r.batch, r.pool, r.ingest, r.counters, popped⟩

theorem reception_launch (capacity batch : Nat) (pipeline : Pipeline) (counters : Counters) :
    (launch capacity batch pipeline counters).reception [] =
      .start (Pool.ofCapacity capacity) batch counters := rfl

theorem step_reception (s : Surroundings) (r : Receiver) (popped : List Frame)
    (x : ReceiverStep) :
    ∃ log taken, (r.step s x).reception taken = (r.reception popped).after log ∧
      log.filterMap ReceptionEvent.reading? = x.reading?.toList := by
  cases x with
  | ingest reading => exact ⟨[.ingest reading], popped, rfl, rfl⟩
  | reconstruct =>
      obtain ⟨batch, pool, ingest, ⟨phase, pipeline⟩, c, pushes⟩ := r
      cases phase with
      | take =>
          by_cases hempty : (pool.pop batch).2.isEmpty
          · refine ⟨[.pop batch], popped ++ (pool.pop batch).2, ?_, rfl⟩
            simp [step, reconstructStep, Reconstruction.step, hempty, reception, Reception.after,
              Reception.step]
          · -- The pipeline's figures are noted after the frames have been taken.
            have hsame := Pipeline.handleAll_sameSocket s.external c pipeline (pool.pop batch).2
            let figures := (pipeline.handleAll s.external c (pool.pop batch).2).2.1
            refine ⟨[.note figures, .pop batch], popped ++ (pool.pop batch).2, ?_, rfl⟩
            simp [step, reconstructStep, Reconstruction.step, hempty, reception, Reception.after,
              Reception.step, figures, ← hsame.received, ← hsame.malformed]
      | giveBack slots rest => exact ⟨[.recycle slots], popped, rfl, rfl⟩
      | checkEnd =>
          refine ⟨[], popped, ?_, rfl⟩
          cases hclosed : pool.closed <;>
            simp [step, reconstructStep, Reconstruction.step, hclosed, reception, Reception.after]
      | _ => exact ⟨[], popped, rfl, rfl⟩

/-- A run of both tasks is a history of the receiving task, with the same readings. -/
theorem run_reception (s : Surroundings) (r : Receiver) (popped : List Frame)
    (steps : List ReceiverStep) :
    ∃ log taken, (r.run s steps).reception taken = (r.reception popped).after log ∧
      log.filterMap ReceptionEvent.reading? =
        (steps.filterMap ReceiverStep.reading?).reverse := by
  induction steps generalizing r popped with
  | nil => exact ⟨[], popped, rfl, rfl⟩
  | cons x steps ih =>
      obtain ⟨log, taken, hlog, hreading⟩ := r.step_reception s popped x
      obtain ⟨later, last, hlater, hreadings⟩ := ih (r.step s x) taken
      refine ⟨later ++ log, last, ?_, ?_⟩
      · rw [Reception.after_append, ← hlog, ← hlater]
        rfl
      · rw [List.filterMap_append, hreadings, hreading]
        cases x with
        | ingest reading => exact List.reverse_cons.symm
        | reconstruct => exact List.append_nil _

end Receiver

end SddsReceiver
