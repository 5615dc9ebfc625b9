import SddsReceiver.Proofs.Receiver.Ending
import SddsReceiver.Proofs.Receiver.Refinement

/-!
# A stream goes on until it is cancelled

Neither task of a stream ends by itself: the receiving task goes on unless it is cancelled,
and the reconstructing task goes on as long as the pool is open. While they go on no end mark
is pushed.
-/
namespace SddsReceiver

namespace Ingest

def receives (i : Ingest) : Bool :=
  match i.phase with
  | .reserve | .await | .drain | .topUp => true
  | .lastQueue | .lastTopUp | .giveBack | .close | .ended => false

theorem phase_ne_ended_of_receives {i : Ingest} (h : i.receives) : i.phase ≠ .ended := by
  intro hended
  rw [receives, hended] at h
  cases h

theorem place_receives (i : Ingest) (pool : Pool) (c : Counters) (batch : Nat)
    (bytes : List UInt8) : (i.place pool c batch bytes).1.receives = i.receives := by
  have hphase : (i.place pool c batch bytes).1.phase = i.phase :=
    (i.place_spec pool c batch bytes).1
  rw [receives, receives, hphase]

theorem step_receives {i : Ingest} (h : i.receives) (pool : Pool) (c : Counters) (batch : Nat)
    {reading : Reading} (hreading : reading ≠ .cancelled) :
    (i.step pool c batch reading).1.receives := by
  obtain ⟨phase, hand, filled, arrival⟩ := i
  cases phase with
  | reserve => rfl
  | await =>
      cases reading with
      | datagram bytes => rfl
      | failure => rfl
      | nothing => rfl
      | cancelled => exact absurd rfl hreading
  | drain =>
      cases reading with
      | datagram bytes =>
          by_cases hfew : filled.length < batch
          · simp only [step, hfew, if_true, place_receives]
            exact h
          · simp only [step, hfew, if_false]
            rfl
      | failure => rfl
      | nothing => rfl
      | cancelled => exact absurd rfl hreading
  | topUp => rfl
  | lastQueue => cases h
  | lastTopUp => cases h
  | giveBack => cases h
  | close => cases h
  | ended => cases h

end Ingest

theorem Pipeline.handleAll_endOfStream (p : Pipeline) (external : Option Sri) (c : Counters)
    (frames : List Frame) :
    ∀ push ∈ (p.handleAll external c frames).2.2, push.endOfStream = false := by
  have h := (PipelineState.mk p external c).run_frames_endOfStream frames
  rwa [PipelineState.run_frames] at h

namespace Reconstruction

structure GoesOn (r : Reconstruction) : Prop where
  hasEnded_eq : r.hasEnded = false
  held : ∀ p ∈ r.pushesHeld, p.endOfStream = false

/-- While the pool is open the task goes on, and hands on no end mark. -/
theorem GoesOn.step {r : Reconstruction} (h : r.GoesOn) {pool : Pool}
    (hopen : pool.closed = false) (c : Counters) (batch : Nat) (s : Surroundings) :
    (r.step pool c batch s).1.GoesOn ∧
      ∀ p ∈ (r.step pool c batch s).2.2.2, p.endOfStream = false := by
  obtain ⟨phase, pipeline⟩ := r
  have hnone : ∀ p ∈ ([] : List Push), p.endOfStream = false := by simp
  cases phase with
  | checkQueue =>
      simp only [Reconstruction.step]
      split <;> exact ⟨⟨rfl, hnone⟩, hnone⟩
  | checkClosed =>
      simp only [Reconstruction.step, hopen]
      exact ⟨⟨rfl, hnone⟩, hnone⟩
  | take =>
      cases hempty : (pool.pop batch).2.isEmpty with
      | true =>
          simp only [Reconstruction.step, hempty, if_true]
          exact ⟨⟨rfl, hnone⟩, hnone⟩
      | false =>
          simp only [Reconstruction.step, hempty, Bool.false_eq_true, if_false]
          exact ⟨⟨rfl, pipeline.handleAll_endOfStream s.external c _⟩, hnone⟩
  | giveBack slots pushes => exact ⟨⟨rfl, hnone⟩, h.held⟩
  | checkEnd =>
      simp only [Reconstruction.step, hopen, Bool.false_eq_true, if_false]
      exact ⟨⟨rfl, hnone⟩, hnone⟩
  | ended => exact absurd h.hasEnded_eq Bool.noConfusion

end Reconstruction

namespace Receiver

structure GoesOn (r : Receiver) : Prop where
  receives : r.ingest.receives
  orderly : r.ingest.Orderly r.pool
  reconstruction : r.reconstruction.GoesOn

theorem GoesOn.launch (capacity batch : Nat) (pipeline : Pipeline) (counters : Counters) :
    (Receiver.launch capacity batch pipeline counters).GoesOn where
  receives := rfl
  orderly := .initial capacity
  reconstruction := ⟨rfl, by
    simp [Receiver.launch, Reconstruction.ofPipeline, Reconstruction.pushesHeld]⟩

section Step
variable {s : Surroundings} {r : Receiver}

theorem GoesOn.pool_open (h : r.GoesOn) : r.pool.closed = false := by
  have hne := Ingest.phase_ne_ended_of_receives h.receives
  exact Bool.eq_false_iff.mpr fun hclosed => hne (h.orderly.closed_iff.mp hclosed)

theorem GoesOn.ingestStep (h : r.GoesOn) {reading : Reading} (hreading : reading ≠ .cancelled) :
    (r.ingestStep reading).GoesOn where
  receives := Ingest.step_receives h.receives r.pool r.counters r.batch hreading
  orderly := (r.ingest.step_moves r.pool r.counters r.batch reading).orderly h.orderly
  reconstruction := h.reconstruction

theorem GoesOn.reconstructStep (h : r.GoesOn) : (r.reconstructStep s).GoesOn := by
  obtain ⟨hnext, -⟩ := h.reconstruction.step h.pool_open r.counters r.batch s
  refine ⟨h.receives, ⟨h.orderly.filled_eq, ?_⟩, hnext⟩
  have hclosed := r.reconstruction.step_closed r.pool r.counters r.batch s
  exact hclosed ▸ h.orderly.closed_iff

end Step

end Receiver

end SddsReceiver
