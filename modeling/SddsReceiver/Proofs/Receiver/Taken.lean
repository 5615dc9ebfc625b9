import SddsReceiver.Proofs.Receiver.Ending
import SddsReceiver.Proofs.Receiver.Receipts

/-!
# The frames that a pipeline sees

A pipeline is handed the frames that the reconstructing task takes from the pool, and no
others. They were on the way before, in the queue or in the batch that is being read; and what
came on the way was placed for a datagram. A stream that is shut down reads nothing more, so
that it takes only what is on the way already.
-/
namespace SddsReceiver

/-- The frames that a pipeline has handled since it was made, in their order. An end or a restart
is none. -/
inductive Pipeline.HasSeen : Pipeline → List Frame → Prop
  | ofConfig (attachId : String) (config : Config) (year : Int) :
      HasSeen (.ofConfig attachId config year) []
  | handle {p : Pipeline} {seen : List Frame} (h : p.HasSeen seen) (external : Option Sri)
      (c : Counters) (f : Frame) : HasSeen (p.handle external c f).1 (seen ++ [f])
  | finish {p : Pipeline} {seen : List Frame} (h : p.HasSeen seen) (hostClock : Timestamp) :
      HasSeen (p.finish hostClock).1 seen
  | resume {p : Pipeline} {seen : List Frame} (h : p.HasSeen seen) (external : Option Sri)
      (c : Counters) (config : Config) : HasSeen (p.resume external c config).1 seen

theorem Pipeline.HasSeen.handleAll {p : Pipeline} {seen : List Frame} (h : p.HasSeen seen)
    (external : Option Sri) (c : Counters) (frames : List Frame) :
    (p.handleAll external c frames).1.HasSeen (seen ++ frames) := by
  induction frames generalizing p c seen with
  | nil =>
      rw [List.append_nil]
      exact h
  | cons f fs ih =>
      have hlast := ih (h.handle external c f) (p.handle external c f).2.1
      rw [List.append_assoc] at hlast
      exact hlast

namespace Reconstruction
variable (r : Reconstruction) (pool : Pool) (c : Counters) (batch : Nat) (s : Surroundings)

def taking : List Frame :=
  match r.phase with
  | .take => (pool.pop batch).2
  | _ => []

theorem taking_append_full :
    r.taking pool batch ++ (r.step pool c batch s).2.1.full = pool.full := by
  obtain ⟨phase, pipeline⟩ := r
  cases phase with
  | take =>
      simp only [step, taking]
      split <;> exact pool.pop_append_full batch
  | checkEnd =>
      simp only [step]
      split <;> rfl
  | _ => rfl

theorem step_hasSeen {seen : List Frame} (h : r.pipeline.HasSeen seen) :
    (r.step pool c batch s).1.pipeline.HasSeen (seen ++ r.taking pool batch) := by
  obtain ⟨phase, pipeline⟩ := r
  cases phase with
  | take =>
      have hhandled := h.handleAll s.external c (pool.pop batch).2
      simp only [step, taking]
      split
      · rename_i hnone
        rw [List.isEmpty_iff.mp hnone] at hhandled ⊢
        exact hhandled
      · exact hhandled
  | checkEnd =>
      simp only [step, taking, List.append_nil]
      split
      · exact h.finish s.hostClock
      · exact h
  | _ =>
      simp only [step, taking, List.append_nil]
      exact h

end Reconstruction

namespace Ingest

theorem placing_becomes (i : Ingest) (pool : Pool) (batch : Nat) (reading : Reading) :
    ∃ used, List.Forall₂ Receipt.Becomes used (i.placing pool batch reading) ∧
      used.Sublist (i.receipt? pool batch reading).toList := by
  cases hreceipt : i.receipt? pool batch reading with
  | none =>
      have hnone := (step_of_unread (unread_of_receipt? hreceipt) pool .initial).2.1
      rw [hnone]
      exact ⟨[], .nil, .slnil⟩
  | some r =>
      obtain ⟨-, -, hplacing, -⟩ := step_of_receipt? hreceipt .initial
      rw [hplacing]
      cases hdecode : Frame.decode (r.bytes.take scratchLength) i.arrival with
      | error fault =>
          simp only [accepted, hdecode]
          exact ⟨[], .nil, List.nil_sublist _⟩
      | ok f =>
          have hbecomes : r.Becomes f := becomes_of_decode hdecode r.hand r.empty
          simp only [accepted, hdecode]
          split
          · exact ⟨[], .nil, List.nil_sublist _⟩
          · exact ⟨[r], .cons hbecomes .nil, List.Sublist.refl _⟩

end Ingest

namespace Receiver
variable (s : Surroundings) (r : Receiver)

def onTheWay : List Frame := r.pool.full ++ r.ingest.filled

/-- The frames that the reconstructing task takes in so many operations. -/
def taken : Nat → List Frame
  | 0 => []
  | n + 1 =>
      let before := Nat.repeat (reconstructStep s) n r
      taken n ++ before.reconstruction.taking before.pool before.batch

/-- The frames that the pipeline sees while the stream is shut down. -/
def takenLast : List Frame := r.cancel.taken s r.cancel.settleBound

theorem taken_append_full (n : Nat) :
    r.taken s n ++ (Nat.repeat (reconstructStep s) n r).pool.full = r.pool.full := by
  induction n with
  | zero => rfl
  | succ n ih =>
      let before := Nat.repeat (reconstructStep s) n r
      have hstep := before.reconstruction.taking_append_full before.pool before.counters
        before.batch s
      rw [taken, List.append_assoc]
      exact (congrArg (r.taken s n ++ ·) hstep).trans ih

theorem taken_hasSeen {seen : List Frame} (h : r.reconstruction.pipeline.HasSeen seen) (n : Nat) :
    (Nat.repeat (reconstructStep s) n r).reconstruction.pipeline.HasSeen
      (seen ++ r.taken s n) := by
  induction n with
  | zero =>
      rw [taken, List.append_nil]
      exact h
  | succ n ih =>
      let before := Nat.repeat (reconstructStep s) n r
      rw [taken, ← List.append_assoc]
      exact before.reconstruction.step_hasSeen before.pool before.counters before.batch s ih

theorem cancel_reconstruction : r.cancel.reconstruction = r.reconstruction := by
  have hrepeat : ∀ n, (Nat.repeat (ingestStep · .cancelled) n r).reconstruction =
      r.reconstruction := by
    intro n
    induction n with
    | zero => rfl
    | succ n ih => exact ih
  exact hrepeat 7

theorem shutdown_hasSeen {seen : List Frame} (h : r.reconstruction.pipeline.HasSeen seen) :
    (r.shutdown s).reconstruction.pipeline.HasSeen (seen ++ r.takenLast s) := by
  rw [← cancel_reconstruction] at h
  rw [shutdown, settle, takenLast]
  exact taken_hasSeen s r.cancel h _

theorem onTheWay_ingestStep (reading : Reading) :
    (r.ingestStep reading).onTheWay = r.onTheWay ++ r.ingest.placing r.pool r.batch reading :=
  (r.ingest.step_moves r.pool r.counters r.batch reading).full_append_filled

theorem onTheWay_cancel : r.cancel.onTheWay = r.onTheWay := by
  have hrepeat : ∀ n, (Nat.repeat (ingestStep · .cancelled) n r).onTheWay = r.onTheWay := by
    intro n
    induction n with
    | zero => rfl
    | succ n ih =>
        let before := Nat.repeat (ingestStep · .cancelled) n r
        have hplacing : before.ingest.placing before.pool before.batch .cancelled = [] := by
          unfold Ingest.placing
          split <;> simp_all
        have hstep := before.onTheWay_ingestStep .cancelled
        rw [hplacing, List.append_nil] at hstep
        exact hstep.trans ih
  exact hrepeat 7

/-- A stream that is shut down sees frames that were on the way, in their order. -/
theorem takenLast_onTheWay : r.takenLast s <+: r.onTheWay := by
  have htaken := r.cancel.taken_append_full s r.cancel.settleBound
  rw [← onTheWay_cancel, onTheWay, ← htaken, List.append_assoc]
  exact List.prefix_append _ _

end Receiver

end SddsReceiver
