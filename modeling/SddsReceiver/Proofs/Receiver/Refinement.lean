import SddsReceiver.Proofs.Pipeline.Stream
import SddsReceiver.Proofs.Receiver.Placement
import SddsReceiver.Receiver.Basic

/-!
# Two tasks as one pipeline

Whatever the order of steps, the pushes handed on are those of one pipeline that takes the
placed frames one at a time and then ends. The frames that were placed are those handled,
those queued and those of the batch that is being read, in this order.

The end is found in two looks, one at the queue and one at the closing, and frames may be
queued in between. The task takes frames only after it saw some or saw the pool closed. No
other task removes frames, and none are queued after the closing, so a take that comes back
empty has followed the last frame.
-/
namespace SddsReceiver

namespace Reconstruction

def pushesHeld (r : Reconstruction) : List Push :=
  match r.phase with
  | .giveBack _ pushes => pushes
  | _ => []

theorem phase_of_hasEnded {r : Reconstruction} (h : r.hasEnded) : r.phase = .ended := by
  unfold hasEnded at h
  split at h
  · assumption
  · cases h

/-- What the task knows of the pool from its last looks. -/
def Justified (r : Reconstruction) (pool : Pool) : Prop :=
  match r.phase with
  | .take => pool.full ≠ [] ∨ pool.closed = true
  | .checkEnd | .ended => pool.full = [] ∧ pool.closed = true
  | .checkQueue | .checkClosed | .giveBack _ _ => True

def calls (r : Reconstruction) (s : Surroundings) (handled : List Frame) : List PipelineCall :=
  handled.map .frame ++ if r.hasEnded then [.finish s.hostClock] else []

structure Played (s : Surroundings) (start : PipelineState) (handled : List Frame)
    (pushed : List Push) (r : Reconstruction) : Prop where
  pipeline : r.pipeline = (start.run (r.calls s handled)).1.pipeline
  pushes : pushed ++ r.pushesHeld = (start.run (r.calls s handled)).2

section Step
variable {s : Surroundings} {start : PipelineState} {handled : List Frame} {pushed : List Push}
  {r : Reconstruction}

theorem Played.of_eq (h : Played s start handled pushed r) {next : Reconstruction}
    {handed : List Push} (hpipeline : next.pipeline = r.pipeline)
    (hended : next.hasEnded = r.hasEnded)
    (hpushes : handed ++ next.pushesHeld = r.pushesHeld) :
    Played s start (handled ++ []) (pushed ++ handed) next := by
  have hcalls : next.calls s handled = r.calls s handled := by rw [calls, calls, hended]
  rw [List.append_nil]
  constructor
  · rw [hpipeline, hcalls, h.pipeline]
  · rw [hcalls, List.append_assoc, hpushes, h.pushes]

theorem Played.of_running (h : Played s start handled pushed r) (hended : r.hasEnded = false)
    (hheld : r.pushesHeld = []) :
    r.pipeline = (start.run (handled.map .frame)).1.pipeline ∧
      pushed = (start.run (handled.map .frame)).2 := by
  have hcalls : r.calls s handled = handled.map .frame := by simp [calls, hended]
  have hpipeline := h.pipeline
  have hpushes := h.pushes
  rw [hcalls] at hpipeline hpushes
  rw [hheld, List.append_nil] at hpushes
  exact ⟨hpipeline, hpushes⟩

theorem Played.handleAll (h : Played s start handled pushed r) (hs : start.external = s.external)
    (hended : r.hasEnded = false) (hheld : r.pushesHeld = []) (c : Counters)
    (frames : List Frame) (slots : List Packet) :
    Played s start (handled ++ frames) (pushed ++ [])
      ⟨.giveBack slots (r.pipeline.handleAll s.external c frames).2.2,
        (r.pipeline.handleAll s.external c frames).1⟩ := by
  obtain ⟨hpipeline, hpushes⟩ := h.of_running hended hheld
  have hagrees : (start.run (handled.map .frame)).1.Agrees ⟨r.pipeline, s.external, c⟩ :=
    ⟨hpipeline.symm, by rw [start.run_frames_external, hs]⟩
  obtain ⟨hlast, hrest⟩ := hagrees.run (frames.map .frame)
  rw [PipelineState.run_frames r.pipeline] at hlast hrest
  have hnext : (handled ++ frames).map PipelineCall.frame ++ [] =
      handled.map .frame ++ frames.map .frame := by
    rw [List.append_nil, List.map_append]
  constructor
  · show _ = (start.run ((handled ++ frames).map .frame ++ [])).1.pipeline
    rw [hnext, PipelineState.run_append, hlast.1]
  · show _ = (start.run ((handled ++ frames).map .frame ++ [])).2
    rw [hnext, PipelineState.run_append, hrest, hpushes, List.append_nil]
    rfl

theorem Played.finish (h : Played s start handled pushed r) (hended : r.hasEnded = false)
    (hheld : r.pushesHeld = []) :
    Played s start (handled ++ []) (pushed ++ (r.pipeline.finish s.hostClock).2)
      ⟨.ended, (r.pipeline.finish s.hostClock).1⟩ := by
  obtain ⟨hpipeline, hpushes⟩ := h.of_running hended hheld
  rw [List.append_nil]
  constructor
  · show _ = (start.run (handled.map .frame ++ [.finish s.hostClock])).1.pipeline
    rw [PipelineState.run_append, hpipeline]
    rfl
  · show _ = (start.run (handled.map .frame ++ [.finish s.hostClock])).2
    rw [PipelineState.run_append, hpushes, hpipeline, List.append_assoc]
    rfl

/-- One operation of the task takes frames from the front of the queue and plays their calls. -/
theorem step_played (h : Played s start handled pushed r) (hs : start.external = s.external)
    (pool : Pool) (c : Counters) (batch : Nat) :
    let (next, rest, _, handed) := r.step pool c batch s
    ∃ taken, pool.full = taken ++ rest.full ∧ rest.closed = pool.closed ∧
      Played s start (handled ++ taken) (pushed ++ handed) next := by
  obtain ⟨phase, pipeline⟩ := r
  cases phase with
  | checkQueue =>
      cases hempty : pool.full.isEmpty with
      | true =>
          simp only [step, hempty, if_true]
          exact ⟨[], rfl, trivial, h.of_eq rfl rfl rfl⟩
      | false =>
          simp only [step, hempty, Bool.false_eq_true, if_false]
          exact ⟨[], rfl, trivial, h.of_eq rfl rfl rfl⟩
  | checkClosed =>
      cases hclosed : pool.closed with
      | true =>
          simp only [step, hclosed, if_true]
          exact ⟨[], rfl, trivial, h.of_eq rfl rfl rfl⟩
      | false =>
          simp only [step, hclosed, Bool.false_eq_true, if_false]
          exact ⟨[], rfl, trivial, h.of_eq rfl rfl rfl⟩
  | take =>
      have htaken := (pool.pop_append_full batch).symm
      cases hempty : (pool.pop batch).2.isEmpty with
      | true =>
          rw [List.isEmpty_iff.mp hempty, List.nil_append] at htaken
          simp only [step, hempty, if_true]
          exact ⟨[], htaken, rfl, h.of_eq rfl rfl rfl⟩
      | false =>
          simp only [step, hempty, Bool.false_eq_true, if_false]
          exact ⟨(pool.pop batch).2, htaken, rfl, h.handleAll hs rfl rfl c _ _⟩
  | giveBack slots pushes =>
      exact ⟨[], rfl, rfl, h.of_eq rfl rfl (List.append_nil pushes)⟩
  | checkEnd =>
      cases hclosed : pool.closed with
      | true =>
          simp only [step, hclosed, if_true]
          exact ⟨[], rfl, trivial, h.finish rfl rfl⟩
      | false =>
          simp only [step, hclosed, Bool.false_eq_true, if_false]
          exact ⟨[], rfl, trivial, h.of_eq rfl rfl rfl⟩
  | ended => exact ⟨[], rfl, rfl, h.of_eq rfl rfl rfl⟩

end Step

/-- The looks of the task bear out what it takes to be known of the pool. -/
theorem Justified.step {r : Reconstruction} {pool : Pool} {batch : Nat} (h : r.Justified pool)
    (hbatch : 0 < batch) (c : Counters) (s : Surroundings) :
    (r.step pool c batch s).1.Justified (r.step pool c batch s).2.1 := by
  obtain ⟨phase, pipeline⟩ := r
  cases phase with
  | checkQueue =>
      cases hempty : pool.full.isEmpty with
      | true =>
          simp only [Reconstruction.step, hempty, if_true]
          trivial
      | false =>
          simp only [Reconstruction.step, hempty, Bool.false_eq_true, if_false]
          exact .inl (List.isEmpty_eq_false_iff.mp hempty)
  | checkClosed =>
      cases hclosed : pool.closed with
      | true =>
          simp only [Reconstruction.step, hclosed, if_true]
          exact .inr hclosed
      | false =>
          simp only [Reconstruction.step, hclosed, Bool.false_eq_true, if_false]
          trivial
  | take =>
      cases hempty : (pool.pop batch).2.isEmpty with
      | true =>
          -- A take has room for a frame, so an empty one has seen an empty queue.
          have hfull : pool.full = [] := by
            have htake : pool.full.take batch = [] := List.isEmpty_iff.mp hempty
            rcases List.take_eq_nil_iff.mp htake with hzero | hnil
            · omega
            · exact hnil
          have hclosed : pool.closed = true := h.resolve_left fun hne => hne hfull
          simp only [Reconstruction.step, hempty, if_true]
          exact ⟨by simp [Pool.pop, hfull], hclosed⟩
      | false =>
          simp only [Reconstruction.step, hempty, Bool.false_eq_true, if_false]
          trivial
  | giveBack slots pushes => trivial
  | checkEnd =>
      obtain ⟨hfull, hclosed⟩ : pool.full = [] ∧ pool.closed = true := h
      simp only [Reconstruction.step, hclosed, if_true]
      exact ⟨hfull, hclosed⟩
  | ended => exact h

/-- What the task knows of the pool stays true while frames are queued before the closing. -/
theorem Justified.mono {r : Reconstruction} {pool rest : Pool} (h : r.Justified pool)
    (hgrows : pool.full <+: rest.full) (hclosed : pool.closed = true → rest.closed = true)
    (hlast : pool.closed = true → rest.full = pool.full) : r.Justified rest := by
  unfold Justified at h ⊢
  split at h
  · rcases h with hne | hc
    · exact .inl fun hnil => hne (List.prefix_nil.mp (hnil ▸ hgrows))
    · exact .inr (hclosed hc)
  · exact ⟨(hlast h.2).trans h.1, hclosed h.2⟩
  · exact ⟨(hlast h.2).trans h.1, hclosed h.2⟩
  · trivial
  · trivial
  · trivial

end Reconstruction

namespace Receiver

def placing (r : Receiver) : ReceiverStep → List Frame
  | .ingest reading => r.ingest.placing r.pool r.batch reading
  | .reconstruct => []

def placed (s : Surroundings) (r : Receiver) : List ReceiverStep → List Frame
  | [] => []
  | x :: xs => r.placing x ++ (r.step s x).placed s xs

/-- The stream has done with the placed frames what one pipeline would have done, as far as
it has come. -/
structure Refines (s : Surroundings) (start : PipelineState) (placed : List Frame)
    (r : Receiver) : Prop where
  external : start.external = s.external
  batch_pos : 0 < r.batch
  orderly : r.ingest.Orderly r.pool
  justified : r.reconstruction.Justified r.pool
  arrival : placed.map Frame.arrival = List.range r.ingest.arrival
  played : ∃ handled, placed = handled ++ (r.pool.full ++ r.ingest.filled) ∧
    r.reconstruction.Played s start handled r.pushes

theorem Refines.launch (s : Surroundings) (capacity batch : Nat) (pipeline : Pipeline)
    (counters : Counters) :
    Refines s ⟨pipeline, s.external, counters⟩ []
      (Receiver.launch capacity batch pipeline counters) where
  external := rfl
  batch_pos := Nat.lt_of_lt_of_le Nat.zero_lt_one (Nat.le_max_right batch 1)
  orderly := .initial capacity
  justified := trivial
  arrival := rfl
  played := ⟨[], rfl, rfl, rfl⟩

section Run
variable {s : Surroundings} {start : PipelineState} {frames : List Frame} {r : Receiver}

theorem Refines.ingestStep (h : Refines s start frames r) (reading : Reading) :
    Refines s start (frames ++ r.ingest.placing r.pool r.batch reading)
      (r.ingestStep reading) := by
  have hmoves := r.ingest.step_moves r.pool r.counters r.batch reading
  obtain ⟨handled, hframes, hplayed⟩ := h.played
  refine ⟨h.external, h.batch_pos, hmoves.orderly h.orderly, ?_, ?_, handled, ?_, hplayed⟩
  · exact h.justified.mono hmoves.full_prefix hmoves.closed_mono
      (hmoves.full_eq_of_closed h.orderly)
  · show _ = List.range (r.ingest.step r.pool r.counters r.batch reading).1.arrival
    have hsplit := @List.range'_append_1 0 r.ingest.arrival
      (r.ingest.placing r.pool r.batch reading).length
    rw [Nat.zero_add] at hsplit
    rw [List.map_append, h.arrival, Ingest.map_arrival_placing, hmoves.arrival_eq,
      List.range_eq_range', List.range_eq_range', hsplit]
  · show _ = handled ++ ((r.ingest.step r.pool r.counters r.batch reading).2.1.full ++
      (r.ingest.step r.pool r.counters r.batch reading).1.filled)
    rw [hmoves.full_append_filled, hframes, List.append_assoc]

theorem Refines.reconstructStep (h : Refines s start frames r) :
    Refines s start frames (r.reconstructStep s) := by
  obtain ⟨handled, hframes, hplayed⟩ := h.played
  obtain ⟨taken, hfull, hclosed, hnext⟩ :=
    Reconstruction.step_played hplayed h.external r.pool r.counters r.batch
  refine ⟨h.external, h.batch_pos, ⟨h.orderly.filled_eq, ?_⟩,
    h.justified.step h.batch_pos r.counters s, h.arrival, handled ++ taken, ?_, hnext⟩
  · exact hclosed ▸ h.orderly.closed_iff
  · rw [hframes, hfull, List.append_assoc, List.append_assoc]
    rfl

theorem Refines.step (h : Refines s start frames r) (x : ReceiverStep) :
    Refines s start (frames ++ r.placing x) (r.step s x) := by
  cases x with
  | ingest reading => exact h.ingestStep reading
  | reconstruct =>
      rw [placing, List.append_nil]
      exact h.reconstructStep

theorem Refines.run (h : Refines s start frames r) (steps : List ReceiverStep) :
    Refines s start (frames ++ r.placed s steps) (r.run s steps) := by
  induction steps generalizing frames r with
  | nil =>
      rw [placed, List.append_nil]
      exact h
  | cons x xs ih =>
      rw [placed, ← List.append_assoc]
      exact ih (h.step x)

/-- When the reconstructing task has ended, so has the other, and no frame is left behind. -/
theorem Refines.drained (h : Refines s start frames r) (hended : r.reconstruction.hasEnded) :
    r.ingest.phase = .ended ∧ r.pool.full = [] ∧ r.ingest.filled = [] := by
  obtain ⟨hfull, hclosed⟩ : r.pool.full = [] ∧ r.pool.closed = true := by
    have hjustified := h.justified
    rw [Reconstruction.Justified, Reconstruction.phase_of_hasEnded hended] at hjustified
    exact hjustified
  have hingest : r.ingest.phase = .ended := h.orderly.closed_iff.mp hclosed
  exact ⟨hingest, hfull, h.orderly.filled_eq (by simp [hingest])⟩

theorem Refines.finished (h : Refines s start frames r) (hended : r.reconstruction.hasEnded) :
    let played := start.run (frames.map .frame ++ [.finish s.hostClock])
    r.pushes = played.2 ∧ r.reconstruction.pipeline = played.1.pipeline := by
  obtain ⟨handled, hframes, hplayed⟩ := h.played
  obtain ⟨-, hfull, hfilled⟩ := h.drained hended
  rw [hfull, hfilled, List.append_nil, List.append_nil] at hframes
  subst hframes
  have hcalls : r.reconstruction.calls s frames = frames.map .frame ++ [.finish s.hostClock] := by
    rw [Reconstruction.calls, hended, if_pos rfl]
  have hheld : r.reconstruction.pushesHeld = [] := by
    rw [Reconstruction.pushesHeld, Reconstruction.phase_of_hasEnded hended]
  have hpipeline := hplayed.pipeline
  have hpushes := hplayed.pushes
  rw [hcalls] at hpipeline hpushes
  rw [hheld, List.append_nil] at hpushes
  exact ⟨hpushes, hpipeline⟩

theorem Refines.arrival_eq_range (h : Refines s start frames r) :
    frames.map Frame.arrival = List.range frames.length := by
  have hcount := congrArg List.length h.arrival
  rw [List.length_map, List.length_range] at hcount
  rw [h.arrival, hcount]

end Run

/-- Whatever the order of steps and whatever the source answers, when the reconstructing task
has ended the pushes handed on are those of one pipeline that took the placed frames one at a
time and then ended. No frame is left behind, none was taken twice or out of order, and the
only end mark is the last push. -/
theorem run_refines_pipeline (s : Surroundings) (capacity batch : Nat) (pipeline : Pipeline)
    (counters : Counters) (steps : List ReceiverStep)
    (hended : (run s (launch capacity batch pipeline counters) steps).reconstruction.hasEnded) :
    let first := launch capacity batch pipeline counters
    let last := run s first steps
    let frames := first.placed s steps
    let played := (PipelineState.mk pipeline s.external counters).run
      (frames.map .frame ++ [.finish s.hostClock])
    (last.pushes = played.2 ∧ last.reconstruction.pipeline = played.1.pipeline) ∧
      (last.ingest.phase = .ended ∧ last.pool.full = [] ∧ last.ingest.filled = []) ∧
      frames.map Frame.arrival = List.range frames.length ∧
      ∃ data ending, last.pushes = data ++ [ending] ∧ ending.endOfStream = true ∧
        ∀ p ∈ data, p.endOfStream = false := by
  intro first last frames played
  have hlast : Refines s ⟨pipeline, s.external, counters⟩ frames last :=
    (Refines.launch s capacity batch pipeline counters).run steps
  have hfinished := hlast.finished hended
  refine ⟨hfinished, hlast.drained hended, hlast.arrival_eq_range, ?_⟩
  rw [hfinished.1]
  exact PipelineState.run_stream_endOfStream _ frames s.hostClock

/-- A frame is queued and the pool closed between the two looks, at the queue and at the
closing, and the frame is still taken. -/
theorem run_refines_pipeline_between_looks :
    let s : Surroundings := ⟨none, .ofHostClock 0.0 0.0⟩
    let first := launch 2 1 (.ofConfig "a" {} 2024) .initial
    let steps := [.ingest .nothing, .ingest (.datagram (0 :: 8 :: List.replicate 1078 0)),
      .reconstruct, .ingest .nothing, .ingest .nothing, .ingest .cancelled, .ingest .nothing,
      .ingest .nothing, .ingest .nothing, .ingest .nothing] ++ List.replicate 7 .reconstruct
    (run s first steps).reconstruction.hasEnded ∧ (first.placed s steps).length = 1 ∧
      (run s first steps).pushes = ((PipelineState.mk (.ofConfig "a" {} 2024) none .initial).run
        ((first.placed s steps).map .frame ++ [.finish s.hostClock])).2 := by
  intro s first steps
  have hended : (run s first steps).reconstruction.hasEnded := by decide +kernel
  exact ⟨hended, by decide +kernel,
    (run_refines_pipeline s 2 1 (.ofConfig "a" {} 2024) .initial steps hended).1.1⟩

end Receiver

end SddsReceiver
