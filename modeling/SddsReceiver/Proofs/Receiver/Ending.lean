import SddsReceiver.Proofs.Push.Steps
import SddsReceiver.Proofs.Receiver.Placement
import SddsReceiver.Receiver.Basic

/-!
# A closed pool is used up

A receiving task that is cancelled closes the pool in seven steps at most, wherever it was.
Once the pool is closed the reconstructing task ends by itself, after three steps for each
queued frame and a few more. So a stream that is shut down has ended, and its pipeline keeps
no open batch.
-/
namespace SddsReceiver

namespace Ingest

/-- Steps that are left at most once the task is cancelled. A batch that is being read is
ended first. -/
def stepsLeft (i : Ingest) : Nat :=
  match i.phase with
  | .drain => 7
  | .reserve | .topUp => 6
  | .await => 5
  | .lastQueue => 4
  | .lastTopUp => 3
  | .giveBack => 2
  | .close => 1
  | .ended => 0

theorem stepsLeft_le (i : Ingest) : i.stepsLeft ≤ 7 := by
  unfold stepsLeft
  split <;> omega

theorem phase_of_stepsLeft {i : Ingest} (h : i.stepsLeft = 0) : i.phase = .ended := by
  unfold stepsLeft at h
  split at h <;> first | assumption | omega

/-- Every step of a cancelled task brings its end nearer. -/
theorem step_stepsLeft (i : Ingest) (pool : Pool) (c : Counters) (batch : Nat) :
    (i.step pool c batch .cancelled).1.stepsLeft ≤ i.stepsLeft - 1 := by
  obtain ⟨phase, hand, filled, arrival⟩ := i
  cases phase <;> simp [step, stepsLeft, queue, topUp]

end Ingest

namespace Reconstruction

/-- Steps that are left at most on a closed pool with so many frames. -/
def stepsLeft (r : Reconstruction) (frames : Nat) : Nat :=
  match r.phase with
  | .checkQueue => 3 * frames + 4
  | .checkClosed => if frames = 0 then 3 else 3 * frames + 4
  | .take => if frames = 0 then 2 else 3 * frames + 3
  | .giveBack _ _ => 3 * frames + 5
  | .checkEnd => 1
  | .ended => 0

theorem stepsLeft_le (r : Reconstruction) (frames : Nat) :
    r.stepsLeft frames ≤ 3 * frames + 5 := by
  unfold stepsLeft
  split <;> (try split) <;> omega

theorem hasEnded_of_stepsLeft {r : Reconstruction} {frames : Nat} (h : r.stepsLeft frames = 0) :
    r.hasEnded := by
  obtain ⟨phase, pipeline⟩ := r
  cases phase with
  | ended => rfl
  | checkQueue => simp [stepsLeft] at h
  | checkClosed => simp only [stepsLeft] at h; split at h <;> omega
  | take => simp only [stepsLeft] at h; split at h <;> omega
  | giveBack slots pushes => simp [stepsLeft] at h
  | checkEnd => simp [stepsLeft] at h

theorem step_closed (r : Reconstruction) (pool : Pool) (c : Counters) (batch : Nat)
    (s : Surroundings) : (r.step pool c batch s).2.1.closed = pool.closed := by
  unfold step
  split
  · rfl
  · rfl
  · dsimp only
    split <;> rfl
  · rfl
  · split <;> rfl
  · rfl

/-- On a closed pool every step brings the end nearer. -/
theorem step_stepsLeft (r : Reconstruction) {pool : Pool} (hclosed : pool.closed = true)
    (c : Counters) (batch : Nat) (s : Surroundings) :
    (r.step pool c batch s).1.stepsLeft (r.step pool c batch s).2.1.full.length ≤
      r.stepsLeft pool.full.length - 1 := by
  obtain ⟨phase, pipeline⟩ := r
  cases phase with
  | checkQueue =>
      cases hfull : pool.full with
      | nil => simp [step, stepsLeft, hfull]
      | cons f fs => simp [step, stepsLeft, hfull]
  | checkClosed =>
      simp only [step, stepsLeft, hclosed, if_true]
      split <;> omega
  | take =>
      have hpopped := pool.length_pop batch
      have hrest := congrArg List.length (pool.pop_append_full batch)
      rw [List.length_append, hpopped] at hrest
      cases hempty : (pool.pop batch).2.isEmpty with
      | true =>
          have hnone : (pool.pop batch).2.length = 0 := by
            rw [List.isEmpty_iff.mp hempty, List.length_nil]
          simp only [step, hempty, if_true, stepsLeft]
          split <;> omega
      | false =>
          have hsome : 0 < (pool.pop batch).2.length :=
            List.length_pos_iff.mpr (List.isEmpty_eq_false_iff.mp hempty)
          simp only [step, hempty, Bool.false_eq_true, if_false, stepsLeft]
          split <;> omega
  | giveBack slots pushes => simp [step, stepsLeft, Pool.recycle]
  | checkEnd => simp [step, stepsLeft, hclosed]
  | ended => simp [step, stepsLeft]

def LeavesNone (r : Reconstruction) : Prop :=
  r.hasEnded → r.pipeline.scheduler.batch = none

theorem LeavesNone.of_running {r : Reconstruction} (h : r.hasEnded = false) : r.LeavesNone :=
  fun hended => Bool.noConfusion (h.symm.trans hended)

theorem LeavesNone.step {r : Reconstruction} (h : r.LeavesNone) (pool : Pool) (c : Counters)
    (batch : Nat) (s : Surroundings) : (r.step pool c batch s).1.LeavesNone := by
  obtain ⟨phase, pipeline⟩ := r
  cases phase with
  | checkQueue =>
      simp only [Reconstruction.step]
      split <;> exact .of_running rfl
  | checkClosed =>
      simp only [Reconstruction.step]
      split <;> exact .of_running rfl
  | take =>
      simp only [Reconstruction.step]
      split <;> exact .of_running rfl
  | giveBack slots pushes => exact .of_running rfl
  | checkEnd =>
      simp only [Reconstruction.step]
      split
      · exact fun _ => pipeline.scheduler.flush_batch
      · exact .of_running rfl
  | ended => exact h

end Reconstruction

namespace Receiver
variable {s : Surroundings} {r : Receiver}

theorem repeat_reconstructStep (hclosed : r.pool.closed = true) (n : Nat) :
    let last := Nat.repeat (reconstructStep s) n r
    last.ingest = r.ingest ∧ last.pool.closed = true ∧
      last.reconstruction.stepsLeft last.pool.full.length ≤
        r.reconstruction.stepsLeft r.pool.full.length - n := by
  induction n with
  | zero => exact ⟨rfl, hclosed, Nat.le_refl _⟩
  | succ n ih =>
      obtain ⟨hingest, hpool, hleft⟩ := ih
      let before := Nat.repeat (reconstructStep s) n r
      have hnext := before.reconstruction.step_stepsLeft hpool before.counters before.batch s
      refine ⟨hingest, ?_, ?_⟩
      · exact (before.reconstruction.step_closed _ _ _ _).trans hpool
      · exact Nat.le_trans hnext (Nat.sub_le_sub_right hleft 1)

/-- The bound on settling is enough: on a closed pool the task ends. -/
theorem settle_hasEnded (hclosed : r.pool.closed = true) :
    (r.settle s).ingest = r.ingest ∧ (r.settle s).reconstruction.hasEnded := by
  obtain ⟨hingest, -, hleft⟩ := repeat_reconstructStep (s := s) hclosed r.settleBound
  have hbound := r.reconstruction.stepsLeft_le r.pool.full.length
  have hzero : r.reconstruction.stepsLeft r.pool.full.length - r.settleBound = 0 := by
    rw [settleBound]
    omega
  rw [hzero] at hleft
  exact ⟨hingest, Reconstruction.hasEnded_of_stepsLeft (Nat.eq_zero_of_le_zero hleft)⟩

theorem repeat_cancelled (horderly : r.ingest.Orderly r.pool) (n : Nat) :
    let last := Nat.repeat (ingestStep · .cancelled) n r
    last.ingest.Orderly last.pool ∧ last.ingest.stepsLeft ≤ r.ingest.stepsLeft - n := by
  induction n with
  | zero => exact ⟨horderly, Nat.le_refl _⟩
  | succ n ih =>
      obtain ⟨hbefore, hleft⟩ := ih
      let before := Nat.repeat (ingestStep · .cancelled) n r
      have hmoves := before.ingest.step_moves before.pool before.counters before.batch .cancelled
      have hnext := before.ingest.step_stepsLeft before.pool before.counters before.batch
      exact ⟨hmoves.orderly hbefore, Nat.le_trans hnext (Nat.sub_le_sub_right hleft 1)⟩

/-- The bound on cancelling is enough: the pool is closed in the end. -/
theorem cancel_closed (horderly : r.ingest.Orderly r.pool) :
    r.cancel.ingest.phase = .ended ∧ r.cancel.pool.closed = true := by
  unfold cancel
  obtain ⟨hlast, hleft⟩ := repeat_cancelled horderly 7
  have hbound := r.ingest.stepsLeft_le
  have hended := Ingest.phase_of_stepsLeft
    (Nat.eq_zero_of_le_zero (Nat.le_trans hleft (Nat.le_of_eq (Nat.sub_eq_zero_of_le hbound))))
  exact ⟨hended, hlast.closed_iff.mpr hended⟩

/-- A stream that is shut down has ended, whatever its tasks were doing. -/
theorem shutdown_hasEnded (horderly : r.ingest.Orderly r.pool) :
    (r.shutdown s).ingest.phase = .ended ∧ (r.shutdown s).reconstruction.hasEnded := by
  obtain ⟨hphase, hclosed⟩ := cancel_closed horderly
  obtain ⟨hingest, hended⟩ := settle_hasEnded (s := s) hclosed
  refine ⟨?_, hended⟩
  rw [shutdown, hingest]
  exact hphase

theorem shutdown_keeps {P : Receiver → Prop}
    (hingest : ∀ r : Receiver, P r → P (r.ingestStep .cancelled))
    (hreconstruct : ∀ r : Receiver, P r → P (r.reconstructStep s)) (h : P r) :
    P (r.shutdown s) := by
  have hrepeat : ∀ {f : Receiver → Receiver}, (∀ r, P r → P (f r)) →
      ∀ n {r}, P r → P (Nat.repeat f n r) := by
    intro f hf n r hr
    induction n with
    | zero => exact hr
    | succ n ih => exact hf _ ih
  unfold shutdown settle cancel
  exact hrepeat hreconstruct _ (hrepeat hingest _ h)

theorem shutdown_batch (horderly : r.ingest.Orderly r.pool)
    (hruns : r.reconstruction.hasEnded = false) :
    (r.shutdown s).reconstruction.pipeline.scheduler.batch = none := by
  have hleaves : (r.shutdown s).reconstruction.LeavesNone :=
    shutdown_keeps (P := fun r => r.reconstruction.LeavesNone) (fun _ h => h)
      (fun r h => h.step r.pool r.counters r.batch s) (.of_running hruns)
  exact hleaves (shutdown_hasEnded horderly).2

end Receiver

end SddsReceiver
