import SddsReceiver.Receiver.Ingest

/-!
# Frames on their way to the queue

The receiving task places a frame when a datagram is one and a slot is free. A placed frame
joins the batch that is being read, and the batch joins the queue. No frame is left in the
batch when the task goes on to wait, and none when it closes the pool; after that nothing is
queued.
-/
namespace SddsReceiver

theorem Frame.arrival_of_decode {bytes : List UInt8} {n : Nat} {f : Frame}
    (h : Frame.decode bytes n = .ok f) : f.arrival = n := by
  unfold Frame.decode at h
  cases hp : Packet.ofBytes bytes with
  | error e => simp [hp, bind, Except.bind] at h
  | ok packet =>
      cases hh : packet.header with
      | error e => simp [hp, hh, bind, Except.bind] at h
      | ok header =>
          simp only [hp, hh, bind, Except.bind, pure, Except.pure, Except.ok.injEq] at h
          rw [← h]

namespace Ingest

/-- The frame that a datagram becomes, if it is one and a slot is free. -/
def accepted (i : Ingest) (pool : Pool) (batch : Nat) (bytes : List UInt8) : List Frame :=
  match Frame.decode bytes i.arrival with
  | .error _ => []
  | .ok frame => if (i.ensureHand pool batch).1.hand.isEmpty then [] else [frame]

/-- The frame that the next operation places, if it places one. -/
def placing (i : Ingest) (pool : Pool) (batch : Nat) (reading : Reading) : List Frame :=
  match i.phase, reading with
  | .await, .datagram bytes => i.accepted pool batch (bytes.take scratchLength)
  | .drain, .datagram bytes =>
      if i.filled.length < batch then i.accepted pool batch (bytes.take scratchLength) else []
  | _, _ => []

section Place
variable (i : Ingest) (pool : Pool) (c : Counters) (batch : Nat) (bytes : List UInt8)

@[simp] theorem ensureHand_phase : (i.ensureHand pool batch).1.phase = i.phase := by
  unfold ensureHand
  split <;> rfl

@[simp] theorem ensureHand_filled : (i.ensureHand pool batch).1.filled = i.filled := by
  unfold ensureHand
  split <;> rfl

@[simp] theorem ensureHand_arrival : (i.ensureHand pool batch).1.arrival = i.arrival := by
  unfold ensureHand
  split <;> rfl

@[simp] theorem ensureHand_full : (i.ensureHand pool batch).2.full = pool.full := by
  unfold ensureHand
  split <;> rfl

@[simp] theorem ensureHand_closed : (i.ensureHand pool batch).2.closed = pool.closed := by
  unfold ensureHand
  split <;> rfl

/-- Placing a datagram adds the accepted frame to the batch, and leaves the queue alone. -/
theorem place_spec :
    let (next, rest, _) := i.place pool c batch bytes
    next.phase = i.phase ∧ next.filled = i.filled ++ i.accepted pool batch bytes ∧
      next.arrival = i.arrival + (i.accepted pool batch bytes).length ∧
      rest.full = pool.full ∧ rest.closed = pool.closed := by
  cases hd : Frame.decode bytes i.arrival with
  | error e => simp [place, accepted, hd]
  | ok frame =>
      cases hh : (i.ensureHand pool batch).1.hand.isEmpty with
      | true => simp [place, accepted, hd, hh, fill]
      | false =>
          have hframe : frame = ⟨frame.header, frame.packet, i.arrival⟩ := by
            rw [← Frame.arrival_of_decode hd]
          simp [place, accepted, hd, hh, fill, ← hframe]

theorem map_arrival_accepted :
    (i.accepted pool batch bytes).map Frame.arrival =
      List.range' i.arrival (i.accepted pool batch bytes).length := by
  cases hd : Frame.decode bytes i.arrival with
  | error e => simp [accepted, hd]
  | ok frame =>
      have harrival := Frame.arrival_of_decode hd
      cases hh : (i.ensureHand pool batch).1.hand.isEmpty <;> simp [accepted, hd, hh, harrival]

theorem map_arrival_placing (reading : Reading) :
    (i.placing pool batch reading).map Frame.arrival =
      List.range' i.arrival (i.placing pool batch reading).length := by
  unfold placing
  split
  · exact i.map_arrival_accepted pool batch _
  · split
    · exact i.map_arrival_accepted pool batch _
    · rfl
  · rfl

end Place

section Read
variable {i : Ingest} {batch : Nat}

theorem step_of_reads (h : i.reads batch = true) (pool : Pool) (c : Counters)
    (bytes : List UInt8) :
    i.placing pool batch (.datagram bytes) =
        i.accepted pool batch (bytes.take scratchLength) ∧
      i.step pool c batch (.datagram bytes) =
        ({ (i.place pool c batch (bytes.take scratchLength)).1 with phase := .drain },
          (i.place pool c batch (bytes.take scratchLength)).2) := by
  obtain ⟨phase, hand, filled, arrival⟩ := i
  cases phase with
  | await => exact ⟨rfl, rfl⟩
  | drain =>
      have hroom : filled.length < batch := by simpa [reads] using h
      have hphase : (place ⟨.drain, hand, filled, arrival⟩ pool c batch
          (bytes.take scratchLength)).1.phase = .drain := (place_spec _ pool c batch _).1
      simp only [step, placing, hroom, if_true, true_and]
      generalize place _ pool c batch (bytes.take scratchLength) = placed at hphase ⊢
      rw [← hphase]
  | _ => simp [reads] at h

theorem step_of_unread {reading : Reading}
    (h : ∀ bytes, reading = .datagram bytes → i.reads batch = false) (pool : Pool)
    (c : Counters) :
    (i.step pool c batch reading).2.2 = c ∧ i.placing pool batch reading = [] ∧
      (i.step pool c batch reading).1.phase ≠ .drain := by
  obtain ⟨phase, hand, filled, arrival⟩ := i
  cases phase with
  | await =>
      cases reading with
      | datagram bytes => cases h bytes rfl
      | _ => exact ⟨rfl, rfl, nofun⟩
  | drain =>
      cases reading with
      | datagram bytes =>
          have hfull : ¬ filled.length < batch := by simpa [reads] using h bytes rfl
          simp [step, placing, queue, hfull]
      | _ => exact ⟨rfl, rfl, nofun⟩
  | _ => cases reading <;> exact ⟨rfl, rfl, nofun⟩

end Read

inductive Moves (i : Ingest) (pool : Pool) (next : Ingest) (rest : Pool) : List Frame → Prop where
  /-- Frames join the batch that is being read. -/
  | place {frames : List Frame} (before : i.phase ≠ .ended) (after : next.phase = .drain)
      (filled : next.filled = i.filled ++ frames)
      (arrival : next.arrival = i.arrival + frames.length)
      (full : rest.full = pool.full) (closed : rest.closed = pool.closed) :
      Moves i pool next rest frames
  /-- The batch joins the queue. -/
  | queue (before : i.phase ≠ .ended) (after : next.phase ≠ .ended) (filled : next.filled = [])
      (arrival : next.arrival = i.arrival)
      (full : rest.full = pool.full ++ i.filled) (closed : rest.closed = pool.closed) :
      Moves i pool next rest []
  /-- No frame is moved. -/
  | keep (before : i.phase ≠ .drain) (ended : next.phase = .ended ↔ i.phase = .ended)
      (filled : next.filled = i.filled) (arrival : next.arrival = i.arrival)
      (full : rest.full = pool.full) (closed : rest.closed = pool.closed) :
      Moves i pool next rest []
  | close (before : i.phase = .close) (after : next.phase = .ended)
      (filled : next.filled = i.filled) (arrival : next.arrival = i.arrival)
      (full : rest.full = pool.full) (closed : rest.closed = true) :
      Moves i pool next rest []

theorem step_moves (i : Ingest) (pool : Pool) (c : Counters) (batch : Nat) (reading : Reading) :
    Moves i pool (i.step pool c batch reading).1 (i.step pool c batch reading).2.1
      (i.placing pool batch reading) := by
  obtain ⟨phase, hand, filled, arrival⟩ := i
  cases phase with
  | reserve => exact .keep (by simp) (by simp [step]) rfl rfl rfl rfl
  | await =>
      cases reading with
      | datagram bytes =>
          obtain ⟨-, hfilled, harrival, hfull, hclosed⟩ := place_spec
            ⟨.await, hand, filled, arrival⟩ pool c batch (bytes.take scratchLength)
          exact .place (by simp) rfl hfilled harrival hfull hclosed
      | failure => exact .keep (by simp) (by simp [step]) rfl rfl rfl rfl
      | nothing => exact .keep (by simp) (by simp [step]) rfl rfl rfl rfl
      | cancelled => exact .keep (by simp) (by simp [step]) rfl rfl rfl rfl
  | drain =>
      cases reading with
      | datagram bytes =>
          by_cases hroom : filled.length < batch
          · obtain ⟨hphase, hfilled, harrival, hfull, hclosed⟩ := place_spec
              ⟨.drain, hand, filled, arrival⟩ pool c batch (bytes.take scratchLength)
            simp only [step, placing, hroom, if_true]
            exact .place (by simp) hphase hfilled harrival hfull hclosed
          · simp only [step, placing, hroom, if_false]
            exact .queue (by simp) (by simp [queue]) rfl rfl rfl rfl
      | failure => exact .queue (by simp) (by simp [step, queue]) rfl rfl rfl rfl
      | nothing => exact .queue (by simp) (by simp [step, queue]) rfl rfl rfl rfl
      | cancelled => exact .queue (by simp) (by simp [step, queue]) rfl rfl rfl rfl
  | topUp => exact .keep (by simp) (by simp [step]) rfl rfl rfl rfl
  | lastQueue => exact .queue (by simp) (by simp [step, queue]) rfl rfl rfl rfl
  | lastTopUp => exact .keep (by simp) (by simp [step]) rfl rfl rfl rfl
  | giveBack => exact .keep (by simp) (by simp [step]) rfl rfl rfl rfl
  | close => exact .close rfl rfl rfl rfl rfl rfl
  | ended => exact .keep (by simp) (by simp [step]) rfl rfl rfl rfl

/-- Frames are in the batch only while it is read, and the pool is closed last of all. -/
structure Orderly (i : Ingest) (pool : Pool) : Prop where
  filled_eq : i.phase ≠ .drain → i.filled = []
  closed_iff : pool.closed = true ↔ i.phase = .ended

namespace Moves
variable {i next : Ingest} {pool rest : Pool} {frames : List Frame}

/-- Placed frames come after all others, in the batch or in the queue. -/
theorem full_append_filled (h : Moves i pool next rest frames) :
    rest.full ++ next.filled = pool.full ++ i.filled ++ frames := by
  cases h with
  | place _ _ filled _ full _ => rw [full, filled, List.append_assoc]
  | queue _ _ filled _ full _ => rw [full, filled, List.append_nil]
  | keep _ _ filled _ full _ => rw [full, filled, List.append_nil]
  | close _ _ filled _ full _ => rw [full, filled, List.append_nil]

theorem full_prefix (h : Moves i pool next rest frames) : pool.full <+: rest.full := by
  cases h with
  | place _ _ _ _ full _ => exact full ▸ List.prefix_rfl
  | queue _ _ _ _ full _ => exact full ▸ List.prefix_append _ _
  | keep _ _ _ _ full _ => exact full ▸ List.prefix_rfl
  | close _ _ _ _ full _ => exact full ▸ List.prefix_rfl

theorem closed_mono (h : Moves i pool next rest frames) (hc : pool.closed = true) :
    rest.closed = true := by
  cases h with
  | place _ _ _ _ _ closed => rw [closed, hc]
  | queue _ _ _ _ _ closed => rw [closed, hc]
  | keep _ _ _ _ _ closed => rw [closed, hc]
  | close _ _ _ _ _ closed => exact closed

theorem arrival_eq (h : Moves i pool next rest frames) :
    next.arrival = i.arrival + frames.length := by
  cases h with
  | place _ _ _ arrival _ _ => exact arrival
  | queue _ _ _ arrival _ _ => exact arrival
  | keep _ _ _ arrival _ _ => exact arrival
  | close _ _ _ arrival _ _ => exact arrival

theorem full_eq_of_closed (h : Moves i pool next rest frames) (hi : i.Orderly pool)
    (hc : pool.closed = true) : rest.full = pool.full := by
  have hended : i.phase = .ended := hi.closed_iff.mp hc
  cases h with
  | place before _ _ _ _ _ => exact absurd hended before
  | queue before _ _ _ _ _ => exact absurd hended before
  | keep _ _ _ _ full _ => exact full
  | close _ _ _ _ full _ => exact full

theorem filled_eq (h : Moves i pool next rest frames) (hi : i.phase ≠ .drain → i.filled = [])
    (hne : next.phase ≠ .drain) : next.filled = [] := by
  cases h with
  | place _ after _ _ _ _ => exact absurd after hne
  | queue _ _ filled _ _ _ => exact filled
  | keep before _ filled _ _ _ => exact filled.trans (hi before)
  | close before _ filled _ _ _ => exact filled.trans (hi (by simp [before]))

theorem orderly (h : Moves i pool next rest frames) (hi : i.Orderly pool) :
    next.Orderly rest := by
  refine ⟨h.filled_eq hi.filled_eq, ?_⟩
  cases h with
  | place before after _ _ _ closed =>
      rw [closed, hi.closed_iff, after]
      simp [before]
  | queue before after _ _ _ closed =>
      rw [closed, hi.closed_iff]
      simp [before, after]
  | keep _ ended _ _ _ closed => rw [closed, hi.closed_iff, ended]
  | close _ after _ _ _ closed => simp [closed, after]

end Moves

theorem Orderly.initial (capacity : Nat) : Ingest.initial.Orderly (Pool.ofCapacity capacity) :=
  ⟨fun _ => rfl, by simp [Ingest.initial, Pool.ofCapacity]⟩

end Ingest

end SddsReceiver
