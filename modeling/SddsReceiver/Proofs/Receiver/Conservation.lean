import SddsReceiver.Proofs.Receiver.Ending
import SddsReceiver.Proofs.Receiver.Refinement

/-!
# No slot is lost

A slot is empty in the pool, queued there with a frame, in hand, filled for the batch that is
being read, or held by the reconstructing task until it gives it back. Every operation of
either task moves slots between these places, whatever it reads and whether or not the pool
can serve it. So they add up to the capacity, and the pool has room for all that comes back.
-/
namespace SddsReceiver

namespace Ingest

def slots (i : Ingest) : Nat := i.hand.length + i.filled.length

/-- No slot is in hand before the first are taken, nor after they were given back. -/
def emptyHanded (i : Ingest) : Prop :=
  match i.phase with
  | .reserve | .close | .ended => i.hand = []
  | .await | .drain | .topUp | .lastQueue | .lastTopUp | .giveBack => True

structure Keeps (batch : Nat) (i : Ingest) (pool : Pool) (next : Ingest) (rest : Pool) : Prop where
  slots : next.slots + rest.held = i.slots + pool.held
  capacity : rest.capacity = pool.capacity
  hand_le : next.hand.length ≤ batch

section Operations
variable (i : Ingest) (pool : Pool) (c : Counters) {batch : Nat}

theorem ensureHand_keeps (h : i.hand.length ≤ batch) :
    Keeps batch i pool (i.ensureHand pool batch).1 (i.ensureHand pool batch).2 := by
  obtain ⟨phase, hand, filled, arrival⟩ := i
  cases hand with
  | nil =>
      have hheld := pool.held_take batch
      have htaken := pool.length_take batch
      refine ⟨?_, rfl, ?_⟩
      · simp only [ensureHand, List.isEmpty_nil, if_true, slots, List.length_nil]
        omega
      · simp only [ensureHand, List.isEmpty_nil, if_true]
        omega
  | cons slot rest => exact ⟨rfl, rfl, h⟩

theorem fill_slots (packet : Packet) (header : Header) :
    (i.fill packet header).slots = i.slots := by
  obtain ⟨phase, hand, filled, arrival⟩ := i
  cases hand with
  | nil => rfl
  | cons slot rest =>
      simp only [fill, List.isEmpty_cons, Bool.false_eq_true, if_false, slots,
        List.length_dropLast, List.length_append, List.length_cons, List.length_nil]
      omega

theorem fill_hand_le (packet : Packet) (header : Header) :
    (i.fill packet header).hand.length ≤ i.hand.length := by
  unfold fill
  split
  · exact Nat.le_refl _
  · exact Nat.le_trans (Nat.le_of_eq List.length_dropLast) (Nat.sub_le _ _)

theorem place_keeps (bytes : List UInt8) (h : i.hand.length ≤ batch) :
    Keeps batch i pool (i.place pool c batch bytes).1 (i.place pool c batch bytes).2.1 := by
  cases hd : Frame.decode bytes i.arrival with
  | error e =>
      simp only [place, hd]
      exact ⟨rfl, rfl, h⟩
  | ok frame =>
      have hready := i.ensureHand_keeps pool h
      simp only [place, hd]
      exact ⟨by rw [fill_slots, hready.slots], hready.capacity,
        Nat.le_trans (fill_hand_le _ _ _) hready.hand_le⟩

theorem queue_keeps (next : IngestPhase) (h : i.hand.length ≤ batch) :
    Keeps batch i pool (i.queue pool next).1 (i.queue pool next).2 := by
  refine ⟨?_, rfl, h⟩
  have hheld := pool.held_queue i.filled
  simp only [queue, slots, List.length_nil]
  omega

/-- The hand is filled up to a batch, as far as the pool has empty slots. -/
theorem topUp_hand (h : i.hand.length ≤ batch) :
    (i.topUp pool batch).1.hand.length = batch ∨ (i.topUp pool batch).2.empty = [] := by
  have htaken := pool.length_take (batch - i.hand.length)
  have hrest := pool.length_empty_take (batch - i.hand.length)
  simp only [topUp, List.length_append, ← List.length_eq_zero_iff]
  omega

theorem topUp_keeps (h : i.hand.length ≤ batch) :
    Keeps batch i pool (i.topUp pool batch).1 (i.topUp pool batch).2 := by
  have hheld := pool.held_take (batch - i.hand.length)
  have htaken := pool.length_take (batch - i.hand.length)
  refine ⟨?_, rfl, ?_⟩
  · simp only [topUp, slots, List.length_append]
    omega
  · simp only [topUp, List.length_append]
    omega

end Operations

section Step
variable {i : Ingest} {pool : Pool} {batch : Nat}

/-- Every operation keeps all slots, as long as the pool has room for those in hand. -/
theorem step_keeps (hroom : pool.held + i.hand.length ≤ pool.capacity)
    (hhand : i.hand.length ≤ batch) (hempty : i.emptyHanded) (c : Counters) (reading : Reading) :
    Keeps batch i pool (i.step pool c batch reading).1 (i.step pool c batch reading).2.1 := by
  obtain ⟨phase, hand, filled, arrival⟩ := i
  cases phase with
  | reserve =>
      have hnone : hand = [] := hempty
      have hheld := pool.held_take batch
      have htaken := pool.length_take batch
      subst hnone
      refine ⟨?_, rfl, ?_⟩
      · simp only [step, slots, List.length_nil]
        omega
      · simp only [step]
        omega
  | await =>
      cases reading with
      | datagram bytes =>
          obtain ⟨hslots, hcapacity, hle⟩ := place_keeps ⟨.await, hand, filled, arrival⟩ pool c
            (bytes.take scratchLength) hhand
          exact ⟨hslots, hcapacity, hle⟩
      | failure => exact ⟨rfl, rfl, hhand⟩
      | nothing => exact ⟨rfl, rfl, hhand⟩
      | cancelled => exact ⟨rfl, rfl, hhand⟩
  | drain =>
      cases reading with
      | datagram bytes =>
          by_cases hfew : filled.length < batch
          · simp only [step, hfew, if_true]
            exact place_keeps _ pool c (bytes.take scratchLength) hhand
          · simp only [step, hfew, if_false]
            exact queue_keeps _ pool .topUp hhand
      | failure => exact queue_keeps _ pool .topUp hhand
      | nothing => exact queue_keeps _ pool .topUp hhand
      | cancelled => exact queue_keeps _ pool .topUp hhand
  | topUp =>
      obtain ⟨hslots, hcapacity, hle⟩ :=
        topUp_keeps ⟨.topUp, hand, filled, arrival⟩ pool hhand
      exact ⟨hslots, hcapacity, hle⟩
  | lastQueue => exact queue_keeps _ pool .lastTopUp hhand
  | lastTopUp =>
      obtain ⟨hslots, hcapacity, hle⟩ :=
        topUp_keeps ⟨.lastTopUp, hand, filled, arrival⟩ pool hhand
      exact ⟨hslots, hcapacity, hle⟩
  | giveBack =>
      refine ⟨?_, rfl, Nat.zero_le _⟩
      simp only [step, slots, List.length_nil, Pool.recycle_of_room hroom, Pool.held,
        List.length_append]
      omega
  | close => exact ⟨rfl, rfl, hhand⟩
  | ended => exact ⟨rfl, rfl, hhand⟩

theorem step_emptyHanded (hempty : i.emptyHanded) (c : Counters) (reading : Reading) :
    (i.step pool c batch reading).1.emptyHanded := by
  obtain ⟨phase, hand, filled, arrival⟩ := i
  cases phase with
  | reserve => trivial
  | await => cases reading <;> trivial
  | drain =>
      cases reading with
      | datagram bytes =>
          by_cases hfew : filled.length < batch
          · let i : Ingest := ⟨.drain, hand, filled, arrival⟩
            have hphase : (i.place pool c batch (bytes.take scratchLength)).1.phase = .drain :=
              (i.place_spec pool c batch (bytes.take scratchLength)).1
            simp only [step, hfew, if_true]
            rw [emptyHanded, hphase]
            trivial
          · simp only [step, hfew, if_false]
            trivial
      | failure => trivial
      | nothing => trivial
      | cancelled => trivial
  | topUp => trivial
  | lastQueue => trivial
  | lastTopUp => trivial
  | giveBack => exact rfl
  | close => exact hempty
  | ended => exact hempty

end Step

end Ingest

namespace Reconstruction
variable {r : Reconstruction} {pool : Pool}

theorem step_slots (hroom : pool.held + r.slotsHeld.length ≤ pool.capacity) (c : Counters)
    (batch : Nat) (s : Surroundings) :
    (r.step pool c batch s).1.slotsHeld.length + (r.step pool c batch s).2.1.held =
        r.slotsHeld.length + pool.held ∧
      (r.step pool c batch s).2.1.capacity = pool.capacity := by
  obtain ⟨phase, pipeline⟩ := r
  cases phase with
  | checkQueue => cases hempty : pool.full.isEmpty <;> simp [step, slotsHeld, hempty]
  | checkClosed => cases hclosed : pool.closed <;> simp [step, slotsHeld, hclosed]
  | take =>
      have hheld := pool.held_pop batch
      cases hempty : (pool.pop batch).2.isEmpty with
      | true =>
          rw [List.isEmpty_iff.mp hempty, List.length_nil] at hheld
          simp only [step, hempty, if_true, slotsHeld, List.length_nil]
          exact ⟨by omega, rfl⟩
      | false =>
          simp only [step, hempty, Bool.false_eq_true, if_false, slotsHeld, List.length_map,
            List.length_nil]
          exact ⟨by omega, rfl⟩
  | giveBack slots pushes =>
      have hroom : pool.held + slots.length ≤ pool.capacity := hroom
      simp only [step, slotsHeld, List.length_nil, Pool.recycle_of_room hroom, Pool.held,
        List.length_append]
      exact ⟨by omega, trivial⟩
  | checkEnd => cases hclosed : pool.closed <;> simp [step, slotsHeld, hclosed]
  | ended => exact ⟨rfl, rfl⟩

end Reconstruction

namespace Receiver

/-- All slots: empty or queued in the pool, in hand, filled, or held by the reconstructing
task. -/
def slots (r : Receiver) : Nat :=
  r.pool.empty.length + r.pool.full.length + r.ingest.hand.length + r.ingest.filled.length +
    r.reconstruction.slotsHeld.length

theorem slots_eq_add (r : Receiver) :
    r.slots = r.ingest.slots + r.pool.held + r.reconstruction.slotsHeld.length := by
  rw [slots, Ingest.slots, Pool.held]
  omega

/-- Steps in a given order, each in surroundings of its own. -/
def runWithin (r : Receiver) (steps : List (Surroundings × ReceiverStep)) : Receiver :=
  steps.foldl (fun r x => r.step x.1 x.2) r

structure Conserves (capacity : Nat) (r : Receiver) : Prop where
  capacity_eq : r.pool.capacity = capacity
  slots_eq : r.slots = capacity
  batch_pos : 0 < r.batch
  hand_le : r.ingest.hand.length ≤ r.batch
  emptyHanded : r.ingest.emptyHanded
  orderly : r.ingest.Orderly r.pool
  justified : r.reconstruction.Justified r.pool

theorem Conserves.launch (capacity batch : Nat) (pipeline : Pipeline) (counters : Counters) :
    Conserves capacity (Receiver.launch capacity batch pipeline counters) where
  capacity_eq := rfl
  slots_eq := by
    simp [slots, Receiver.launch, Pool.ofCapacity, Ingest.initial, Reconstruction.ofPipeline,
      Reconstruction.slotsHeld]
  batch_pos := Nat.lt_of_lt_of_le Nat.zero_lt_one (Nat.le_max_right batch 1)
  hand_le := Nat.zero_le _
  emptyHanded := rfl
  orderly := .initial capacity
  justified := trivial

theorem step_batch (s : Surroundings) (r : Receiver) (x : ReceiverStep) :
    (r.step s x).batch = r.batch := by
  cases x with
  | ingest reading => rfl
  | reconstruct => rfl

theorem runWithin_batch (r : Receiver) (steps : List (Surroundings × ReceiverStep)) :
    (r.runWithin steps).batch = r.batch := by
  induction steps generalizing r with
  | nil => rfl
  | cons x xs ih => exact (ih _).trans (step_batch x.1 r x.2)

section Run
variable {s : Surroundings} {capacity : Nat} {r : Receiver}

/-- The pool has room for what either task gives back. -/
theorem Conserves.room (h : Conserves capacity r) :
    r.pool.held + r.ingest.hand.length ≤ r.pool.capacity ∧
      r.pool.held + r.reconstruction.slotsHeld.length ≤ r.pool.capacity := by
  have hslots := h.slots_eq
  rw [slots] at hslots
  rw [h.capacity_eq, Pool.held]
  omega

theorem Conserves.ingestStep (h : Conserves capacity r) (reading : Reading) :
    Conserves capacity (r.ingestStep reading) := by
  obtain ⟨hslots, hcapacity, hle⟩ :=
    Ingest.step_keeps h.room.1 h.hand_le h.emptyHanded r.counters reading
  have hmoves := r.ingest.step_moves r.pool r.counters r.batch reading
  refine ⟨hcapacity.trans h.capacity_eq, ?_, h.batch_pos, hle,
    Ingest.step_emptyHanded h.emptyHanded _ _, hmoves.orderly h.orderly,
    h.justified.mono hmoves.full_prefix hmoves.closed_mono (hmoves.full_eq_of_closed h.orderly)⟩
  calc
    (r.ingestStep reading).slots
    _ = (r.ingest.step r.pool r.counters r.batch reading).1.slots +
          (r.ingest.step r.pool r.counters r.batch reading).2.1.held +
          r.reconstruction.slotsHeld.length := slots_eq_add _
    _ = r.slots := by rw [hslots, slots_eq_add]
    _ = capacity := h.slots_eq

theorem Conserves.reconstructStep (h : Conserves capacity r) :
    Conserves capacity (r.reconstructStep s) := by
  obtain ⟨hslots, hcapacity⟩ := Reconstruction.step_slots h.room.2 r.counters r.batch s
  have hclosed := r.reconstruction.step_closed r.pool r.counters r.batch s
  refine ⟨hcapacity.trans h.capacity_eq, ?_, h.batch_pos, h.hand_le, h.emptyHanded,
    ⟨h.orderly.filled_eq, hclosed ▸ h.orderly.closed_iff⟩,
    h.justified.step h.batch_pos r.counters s⟩
  calc
    (r.reconstructStep s).slots
    _ = r.ingest.slots + (r.reconstruction.step r.pool r.counters r.batch s).2.1.held +
          (r.reconstruction.step r.pool r.counters r.batch s).1.slotsHeld.length := slots_eq_add _
    _ = r.slots := by
          rw [slots_eq_add]
          omega
    _ = capacity := h.slots_eq

theorem Conserves.step (h : Conserves capacity r) (x : ReceiverStep) :
    Conserves capacity (r.step s x) := by
  cases x with
  | ingest reading => exact h.ingestStep reading
  | reconstruct => exact h.reconstructStep

theorem Conserves.runWithin (h : Conserves capacity r)
    (steps : List (Surroundings × ReceiverStep)) : Conserves capacity (r.runWithin steps) := by
  induction steps generalizing r with
  | nil => exact h
  | cons x xs ih => exact ih (h.step x.2)

/-- A step that ends a commit leaves a batch in hand, or no empty slot in the pool. -/
theorem Conserves.committed (h : Conserves capacity r)
    (hphase : r.ingest.phase = .topUp ∨ r.ingest.phase = .lastTopUp) (reading : Reading) :
    (r.ingestStep reading).ingest.hand.length = r.batch ∨
      (r.ingestStep reading).pool.empty = [] := by
  have hhand := r.ingest.topUp_hand r.pool h.hand_le
  rcases hphase with hphase | hphase
  · simpa only [Receiver.ingestStep, Ingest.step, hphase] using hhand
  · simpa only [Receiver.ingestStep, Ingest.step, hphase] using hhand

/-- When the reconstructing task has ended, so has the other, and every slot is empty in the
pool. -/
theorem Conserves.drained (h : Conserves capacity r) (hended : r.reconstruction.hasEnded) :
    r.ingest.phase = .ended ∧ r.pool.empty.length = capacity ∧ r.pool.full = [] := by
  have hlast := Reconstruction.phase_of_hasEnded hended
  obtain ⟨hfull, hclosed⟩ : r.pool.full = [] ∧ r.pool.closed = true := by
    have hjustified := h.justified
    rwa [Reconstruction.Justified, hlast] at hjustified
  have hphase : r.ingest.phase = .ended := h.orderly.closed_iff.mp hclosed
  have hhand : r.ingest.hand = [] := by
    have hempty := h.emptyHanded
    rwa [Ingest.emptyHanded, hphase] at hempty
  have hfilled : r.ingest.filled = [] := h.orderly.filled_eq (by simp [hphase])
  have hheld : r.reconstruction.slotsHeld = [] := by rw [Reconstruction.slotsHeld, hlast]
  have hslots := h.slots_eq
  rw [slots, hfull, hfilled, hhand, hheld] at hslots
  exact ⟨hphase, hslots, hfull⟩

end Run

/-- Whatever the order of steps, whatever the source answers and whatever is described from
outside meanwhile, the slots in the pool, in hand, filled and held by the reconstructing task
add up to the capacity. So the pool takes all that either task gives back. The hand never
holds more than a batch, and a commit fills it up unless the pool has no empty slot left. When
the reconstructing task has ended so has the other, and every slot is empty in the pool. -/
theorem run_conserves_slots (capacity batch : Nat) (pipeline : Pipeline) (counters : Counters)
    (steps : List (Surroundings × ReceiverStep)) :
    let r := runWithin (launch capacity batch pipeline counters) steps
    r.slots = capacity ∧
      (r.pool.recycle r.ingest.hand).empty = r.pool.empty ++ r.ingest.hand ∧
      (r.pool.recycle r.reconstruction.slotsHeld).empty =
        r.pool.empty ++ r.reconstruction.slotsHeld ∧
      r.ingest.hand.length ≤ max batch 1 ∧
      (r.ingest.phase = .topUp ∨ r.ingest.phase = .lastTopUp → ∀ reading,
        (r.ingestStep reading).ingest.hand.length = max batch 1 ∨
          (r.ingestStep reading).pool.empty = []) ∧
      (r.reconstruction.hasEnded →
        r.ingest.phase = .ended ∧ r.pool.empty.length = capacity ∧ r.pool.full = []) := by
  intro r
  have hr : Conserves capacity r :=
    (Conserves.launch capacity batch pipeline counters).runWithin steps
  have hbatch : r.batch = max batch 1 := runWithin_batch _ steps
  obtain ⟨hhand, hheld⟩ := hr.room
  exact ⟨hr.slots_eq, by rw [Pool.recycle_of_room hhand], by rw [Pool.recycle_of_room hheld],
    hbatch ▸ hr.hand_le, fun hphase reading => hbatch ▸ hr.committed hphase reading, hr.drained⟩

/-- A burst of three frames and a malformed datagram on two slots: a frame finds no slot, and
in the end both slots are back in the pool. -/
theorem run_conserves_slots_exhausted :
    let s : Surroundings := ⟨none, .ofHostClock 0.0 0.0⟩
    let first := launch 2 4 (.ofConfig "a" {} 2024) .initial
    let frame := Reading.datagram (0 :: 8 :: List.replicate 1078 0)
    let steps := [.ingest .nothing, .ingest frame, .ingest (.datagram [0]), .ingest frame,
      .ingest frame] ++ List.replicate 7 (.ingest .cancelled) ++ List.replicate 12 .reconstruct
    let last := first.runWithin (steps.map fun x => (s, x))
    (last.ingest.arrival = 2 ∧ last.reconstruction.hasEnded) ∧
      (last.ingest.phase = .ended ∧ last.pool.empty.length = 2 ∧ last.pool.full = []) := by
  intro s first frame steps last
  have harrival : last.ingest.arrival = 2 := by decide +kernel
  have hended : last.reconstruction.hasEnded := by decide +kernel
  -- From here on the steps are any that end the stream; they are not to be computed again.
  clear_value steps
  obtain ⟨-, -, -, -, -, hlast⟩ :=
    run_conserves_slots 2 4 (.ofConfig "a" {} 2024) .initial (steps.map fun x => (s, x))
  exact ⟨⟨harrival, hended⟩, hlast hended⟩

end Receiver

end SddsReceiver
