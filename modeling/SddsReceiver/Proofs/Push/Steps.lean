import SddsReceiver.Push.Scheduler
import SddsReceiver.Proofs.Samples

/-!
# What one frame does to a scheduler

Taking a frame is made of three moves: closing the open batch, joining a frame to it and
leaving a frame out. Each move is described once. From these descriptions follow two rules
for a whole frame. A property of batches that joining keeps holds of every batch pushed, and
no sample is lost or repeated between the open batch and the pushes.
-/
namespace SddsReceiver

def Push.carried (pushes : List Push) : List Sample :=
  (pushes.filter fun p => !p.endOfStream).flatMap fun p => p.samples.samples

@[simp] theorem Push.carried_nil : carried [] = [] := rfl

@[simp] theorem Push.carried_append (first second : List Push) :
    carried (first ++ second) = carried first ++ carried second := by
  simp [carried]

namespace Scheduler

def held (s : Scheduler) : List Sample :=
  s.batch.toList.flatMap fun b => b.samples.samples

section Flush
variable (s : Scheduler) (c : Bool)

@[simp] theorem flush_pushes : s.flush.2 = s.batch.toList.map Batch.toPush := by
  cases h : s.batch <;> simp [flush, h]

@[simp] theorem flush_batch : s.flush.1.batch = none := by
  cases h : s.batch <;> simp [flush, h]

@[simp] theorem flush_policy : s.flush.1.policy = s.policy := by
  cases h : s.batch <;> simp [flush, h]

@[simp] theorem flush_state : s.flush.1.state = s.state := by
  cases h : s.batch <;> simp [flush, h]

@[simp] theorem flush_lane : s.flush.1.lane = s.lane := by
  cases h : s.batch <;> simp [flush, h]

@[simp] theorem flush_lastValid : s.flush.1.lastValid = s.lastValid := by
  cases h : s.batch <;> simp [flush, h]

@[simp] theorem flush_sriPending : s.flush.1.sriPending = s.sriPending := by
  cases h : s.batch <;> simp [flush, h]

@[simp] theorem flush_withheld : s.flush.1.withheld = s.withheld := by
  cases h : s.batch <;> simp [flush, h]

@[simp] theorem flushIf_policy : (s.flushIf c).1.policy = s.policy := by
  cases c <;> simp [flushIf]

@[simp] theorem flushIf_state : (s.flushIf c).1.state = s.state := by
  cases c <;> simp [flushIf]

@[simp] theorem flushIf_lane : (s.flushIf c).1.lane = s.lane := by
  cases c <;> simp [flushIf]

@[simp] theorem flushIf_lastValid : (s.flushIf c).1.lastValid = s.lastValid := by
  cases c <;> simp [flushIf]

@[simp] theorem flushIf_sriPending : (s.flushIf c).1.sriPending = s.sriPending := by
  cases c <;> simp [flushIf]

@[simp] theorem flushIf_withheld : (s.flushIf c).1.withheld = s.withheld := by
  cases c <;> simp [flushIf]

theorem flush_carried : Push.carried s.flush.2 = s.held := by
  cases h : s.batch <;> simp [h, held, Push.carried, Batch.toPush]

theorem flushIf_carried :
    Push.carried (s.flushIf c).2 ++ (s.flushIf c).1.held = s.held := by
  cases c with
  | false => simp [flushIf]
  | true =>
      have hnone : s.flush.1.held = [] := by simp [held]
      simp only [flushIf, if_true, flush_carried, hnone, List.append_nil]

end Flush

section Finish
variable (s : Scheduler) (sri : Sri) (hostClock : Timestamp)

/-- The push that ends a stream: empty, with the time and the description of the last batch
pushed or, without one, with those given. -/
def endMark : Push where
  samples := .empty (s.lane.getD .octet)
  timestamp := s.flush.1.lastStart.getD hostClock
  sri := s.flush.1.lastSri.getD sri
  sriChanged := false
  endOfStream := true
  frames := 0

theorem finish_pushes :
    (s.finish sri hostClock).2 = s.flush.2 ++ [s.endMark sri hostClock] := by
  simp [finish, endMark]

end Finish

section Take
variable (s : Scheduler) (lane : Lane) (o : Offer)

/-- The frame starts something new, so that the open batch is closed before it. -/
def cutsBefore (s : Scheduler) (o : Offer) : Bool :=
  o.sriChanged || (s.edgeAt o.timeValid && s.policy.cutsAt o.timeValid)

/-- The scheduler when the frame has closed the open batch, if it does. -/
def opened (s : Scheduler) (o : Offer) : Scheduler × List Push :=
  { s with lastValid := some o.timeValid }.flushIf (s.cutsBefore o)

@[simp] theorem opened_policy : (s.opened o).1.policy = s.policy := by simp [opened]
@[simp] theorem opened_state : (s.opened o).1.state = s.state := by simp [opened]
@[simp] theorem opened_lane : (s.opened o).1.lane = s.lane := by simp [opened]
@[simp] theorem opened_sriPending : (s.opened o).1.sriPending = s.sriPending := by simp [opened]
@[simp] theorem opened_lastValid : (s.opened o).1.lastValid = some o.timeValid := by
  simp [opened]

theorem opened_batch :
    (s.opened o).1.batch = if s.cutsBefore o then none else s.batch := by
  cases h : s.cutsBefore o <;> simp [opened, flushIf, h]

theorem opened_pushes :
    (s.opened o).2 = if s.cutsBefore o then s.batch.toList.map Batch.toPush else [] := by
  cases h : s.cutsBefore o <;> simp [opened, flushIf, h]

theorem take_withheld (h : s.policy.withholds o.timeValid = true) :
    s.take lane o = ((s.opened o).1.withhold o, (s.opened o).2) := by
  simp only [take, h, if_true, opened, cutsBefore]

theorem take_kept (h : s.policy.withholds o.timeValid = false) :
    s.take lane o =
      ((((s.opened o).1.append lane o).flushIf ((s.opened o).1.append lane o).full).1,
        (s.opened o).2 ++
          (((s.opened o).1.append lane o).flushIf ((s.opened o).1.append lane o).full).2) := by
  simp only [take, h, Bool.false_eq_true, if_false, opened, cutsBefore]

@[simp] theorem take_policy : (s.take lane o).1.policy = s.policy := by
  cases h : s.policy.withholds o.timeValid with
  | true => simp [take_withheld s lane o h, withhold]
  | false => simp [take_kept s lane o h, append]

@[simp] theorem take_lane : (s.take lane o).1.lane = s.lane := by
  cases h : s.policy.withholds o.timeValid with
  | true => simp [take_withheld s lane o h, withhold]
  | false => simp [take_kept s lane o h, append]

theorem take_withheld_eq : (s.take lane o).1.withheld =
    s.withheld + if s.policy.withholds o.timeValid then 1 else 0 := by
  cases h : s.policy.withholds o.timeValid with
  | true => simp [take_withheld s lane o h, withhold, opened]
  | false => simp [take_kept s lane o h, append, opened]

end Take

section Batches
variable {P : Batch → Prop}

theorem flushIf_batches {s : Scheduler} (c : Bool) (hs : ∀ b ∈ s.batch, P b) :
    (∀ b ∈ (s.flushIf c).1.batch, P b) ∧
      ∀ p ∈ (s.flushIf c).2, ∃ b, P b ∧ p = b.toPush := by
  cases c with
  | false => exact ⟨hs, by simp [flushIf]⟩
  | true =>
      refine ⟨by simp [flushIf], ?_⟩
      intro p hp
      simp only [flushIf, if_true, flush_pushes, List.mem_map, Option.mem_toList] at hp
      obtain ⟨b, hb, rfl⟩ := hp
      exact ⟨b, hs b hb, rfl⟩

theorem opened_batch_mem {s : Scheduler} {o : Offer} {b : Batch}
    (hb : b ∈ (s.opened o).1.batch) : b ∈ s.batch := by
  rw [opened_batch] at hb
  split at hb
  · cases hb
  · exact hb

/-- What holds of the open batch, of a batch that the frame opens and of a batch that it joins
holds afterwards of the open batch and of every batch pushed. -/
theorem take_batches {s : Scheduler} (lane : Lane) (o : Offer) (hs : ∀ b ∈ s.batch, P b)
    (hfirst : ∀ changed, P (.ofOffer lane o changed))
    (hmore : ∀ b ∈ s.batch, ∀ changed, P (b.add o changed)) :
    (∀ b ∈ (s.take lane o).1.batch, P b) ∧
      ∀ p ∈ (s.take lane o).2, ∃ b, P b ∧ p = b.toPush := by
  have hopened : (∀ b ∈ (s.opened o).1.batch, P b) ∧
      ∀ p ∈ (s.opened o).2, ∃ b, P b ∧ p = b.toPush :=
    flushIf_batches (s.cutsBefore o) hs
  cases h : s.policy.withholds o.timeValid with
  | true =>
      rw [take_withheld s lane o h]
      exact hopened
  | false =>
      have hjoined : ∀ b ∈ ((s.opened o).1.append lane o).batch, P b := by
        intro b hb
        simp only [append, Option.mem_def, Option.some.injEq] at hb
        subst hb
        split
        · exact hfirst _
        · rename_i current hcurrent
          exact hmore current (opened_batch_mem hcurrent) _
      obtain ⟨hlast, hpushed⟩ := flushIf_batches ((s.opened o).1.append lane o).full hjoined
      rw [take_kept s lane o h]
      refine ⟨hlast, ?_⟩
      intro p hp
      rcases List.mem_append.mp hp with hp | hp
      · exact hopened.2 p hp
      · exact hpushed p hp

end Batches

section Conservation
variable {s : Scheduler} {lane : Lane} {o : Offer}

theorem append_held (h : ∀ b ∈ s.batch, b.samples.lane = lane) :
    (s.append lane o).held = s.held ++ Sample.decode lane o.order o.payload := by
  cases hb : s.batch with
  | none =>
      simp [append, held, hb, Batch.ofOffer, SampleBuffer.samples_extend]
  | some b =>
      have hl : b.samples.lane = lane := h b hb
      simp [append, held, hb, Batch.add, SampleBuffer.samples_extend, hl]

/-- The samples pushed and the samples left in the open batch are those of the open batch
before and, unless it is withheld, of the frame. -/
theorem take_carried (h : ∀ b ∈ s.batch, b.samples.lane = lane) :
    Push.carried (s.take lane o).2 ++ (s.take lane o).1.held =
      s.held ++ if s.policy.withholds o.timeValid then []
        else Sample.decode lane o.order o.payload := by
  have hopened : Push.carried (s.opened o).2 ++ (s.opened o).1.held = s.held :=
    flushIf_carried _ _
  cases hw : s.policy.withholds o.timeValid with
  | true =>
      rw [take_withheld s lane o hw]
      simpa [withhold, held] using hopened
  | false =>
      have hlane : ∀ b ∈ (s.opened o).1.batch, b.samples.lane = lane :=
        fun b hb => h b (opened_batch_mem hb)
      have hjoined := flushIf_carried ((s.opened o).1.append lane o)
        ((s.opened o).1.append lane o).full
      rw [take_kept s lane o hw, Push.carried_append, List.append_assoc, hjoined,
        append_held hlane, ← List.append_assoc, hopened]
      rfl

end Conservation

end Scheduler

end SddsReceiver
