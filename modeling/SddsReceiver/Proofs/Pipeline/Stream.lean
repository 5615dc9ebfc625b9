import SddsReceiver.Proofs.Pipeline.Calls

/-!
# One stream through a pipeline

A stream is any number of frames and then one end. The counters never reach the pushes, so
frames may be taken in batches while the counters move on. The end is the last push, and no
frame causes another.
-/
namespace SddsReceiver

namespace Scheduler

theorem offer_endOfStream (s : Scheduler) (o : Offer) :
    ∀ p ∈ (s.offer o).2, p.endOfStream = false := by
  intro p hp
  unfold offer at hp
  split at hp
  · rename_i lane hlane hstate
    obtain ⟨b, -, rfl⟩ := (take_batches (P := fun _ => True) lane o (fun _ _ => trivial)
      (fun _ => trivial) fun _ _ _ => trivial).2 p hp
    rfl
  · simp at hp

theorem flush_endOfStream (s : Scheduler) : ∀ p ∈ s.flush.2, p.endOfStream = false := by
  intro p hp
  rw [flush_pushes] at hp
  obtain ⟨b, -, rfl⟩ := List.mem_map.mp hp
  rfl

end Scheduler

namespace Pipeline
variable (p : Pipeline) (external : Option Sri) (c d : Counters) (f : Frame)

/-- The counters have no part in what becomes of a frame. -/
theorem handle_counters :
    (p.handle external c f).1 = (p.handle external d f).1 ∧
      (p.handle external c f).2.2 = (p.handle external d f).2.2 := by
  cases h : p.laneFor f.header.bitsPerSample with
  | none =>
      rw [handle_rejected external c h, handle_rejected external d h]
      exact ⟨rfl, rfl⟩
  | some lane =>
      obtain ⟨hc, hcPushes⟩ := handle_accepted external c h
      obtain ⟨hd, hdPushes⟩ := handle_accepted external d h
      exact ⟨hc.trans hd.symm, hcPushes.trans hdPushes.symm⟩

theorem handle_endOfStream : ∀ push ∈ (p.handle external c f).2.2, push.endOfStream = false := by
  cases h : p.laneFor f.header.bitsPerSample with
  | none =>
      rw [handle_rejected external c h]
      simp
  | some lane =>
      rw [(handle_accepted external c h).2]
      exact (p.wakeScheduler lane).offer_endOfStream _

end Pipeline

namespace PipelineState

def Agrees (t u : PipelineState) : Prop := t.pipeline = u.pipeline ∧ t.external = u.external

theorem Agrees.call {t u : PipelineState} (h : t.Agrees u) (c : PipelineCall) :
    (t.call c).1.Agrees (u.call c).1 ∧ (t.call c).2 = (u.call c).2 := by
  obtain ⟨pipeline, external, counters⟩ := t
  obtain ⟨_, _, others⟩ := u
  obtain ⟨rfl, rfl⟩ := h
  cases c with
  | describe external => exact ⟨⟨rfl, rfl⟩, rfl⟩
  | frame f =>
      obtain ⟨hnext, hpushes⟩ := pipeline.handle_counters external counters others f
      exact ⟨⟨hnext, rfl⟩, hpushes⟩
  | finish hostClock => exact ⟨⟨rfl, rfl⟩, rfl⟩
  | resume config => exact ⟨⟨rfl, rfl⟩, rfl⟩

theorem Agrees.run {t u : PipelineState} (h : t.Agrees u) (calls : List PipelineCall) :
    (t.run calls).1.Agrees (u.run calls).1 ∧ (t.run calls).2 = (u.run calls).2 := by
  induction calls generalizing t u with
  | nil => exact ⟨h, rfl⟩
  | cons c cs ih =>
      obtain ⟨hnext, hpushes⟩ := h.call c
      obtain ⟨hlast, hrest⟩ := ih hnext
      rw [run_cons, run_cons]
      exact ⟨hlast, by rw [hpushes, hrest]⟩

theorem run_frames (p : Pipeline) (external : Option Sri) (c : Counters) (frames : List Frame) :
    (mk p external c).run (frames.map .frame) =
      (⟨(p.handleAll external c frames).1, external, (p.handleAll external c frames).2.1⟩,
        (p.handleAll external c frames).2.2) := by
  induction frames generalizing p c with
  | nil => rfl
  | cons f fs ih =>
      rw [List.map_cons, run_cons]
      simp only [call, ih, Pipeline.handleAll]

theorem run_frames_external (t : PipelineState) (frames : List Frame) :
    (t.run (frames.map .frame)).1.external = t.external := by
  rw [run_frames]

theorem run_frames_endOfStream (t : PipelineState) (frames : List Frame) :
    ∀ p ∈ (t.run (frames.map .frame)).2, p.endOfStream = false := by
  induction frames generalizing t with
  | nil => simp
  | cons f fs ih =>
      rw [List.map_cons, run_cons]
      intro p hp
      rcases List.mem_append.mp hp with hnow | hlater
      · exact t.pipeline.handle_endOfStream t.external t.counters f p hnow
      · exact ih _ p hlater

theorem run_stream_endOfStream (t : PipelineState) (frames : List Frame)
    (hostClock : Timestamp) :
    ∃ data ending, (t.run (frames.map .frame ++ [.finish hostClock])).2 = data ++ [ending] ∧
      ending.endOfStream = true ∧ ∀ p ∈ data, p.endOfStream = false := by
  rw [run_append]
  let played := (t.run (frames.map .frame)).1.pipeline
  let ending := played.scheduler.endMark played.merger.current hostClock
  have hfinish : ((t.run (frames.map .frame)).1.run [.finish hostClock]).2 =
      played.scheduler.flush.2 ++ [ending] := by
    rw [← Scheduler.finish_pushes]
    exact List.append_nil _
  refine ⟨(t.run (frames.map .frame)).2 ++ played.scheduler.flush.2, ending, ?_, rfl, ?_⟩
  · rw [hfinish, List.append_assoc]
  · intro p hp
    rcases List.mem_append.mp hp with hframe | hrest
    · exact t.run_frames_endOfStream frames p hframe
    · exact played.scheduler.flush_endOfStream p hrest

end PipelineState

end SddsReceiver
