import SddsReceiver.Proofs.Pipeline.Announcement

/-!
# Stopping and starting again

A stream may be ended and taken up again anywhere between its frames. What the pipeline knows
of the stream survives: the trackers, the year, the lane and the figures move on with the
frames alone. An end resets the scheduler and the merger, and of them only the batches, the
end marks and the marks of change depend on it. So the same frames are kept and delivered.
-/
namespace SddsReceiver

namespace PipelineCall

/-- A stop and the start that follows it, if there is a stop at all. -/
def restart (config : Config) : Option Timestamp → List PipelineCall
  | none => []
  | some hostClock => [.finish hostClock, .resume config]

/-- Frames with stops at some positions, each at its time: before the frame of that number, or
after the last one. -/
def withRestarts (config : Config) (stops : ℕ → Option Timestamp) : List Frame → List PipelineCall
  | [] => restart config (stops 0)
  | f :: fs =>
      restart config (stops 0) ++ .frame f :: withRestarts config (fun i => stops (i + 1)) fs

theorem withRestarts_none (config : Config) (frames : List Frame) :
    withRestarts config (fun _ => none) frames = frames.map .frame := by
  induction frames with
  | nil => rfl
  | cons f fs ih =>
      rw [withRestarts, ih]
      rfl

theorem fixedLane_append (before after : List PipelineCall) :
    fixedLane (before ++ after) = (fixedLane before).or (fixedLane after) := by
  rw [fixedLane, fixedLane, fixedLane, List.findSome?_append]

theorem fixedLane_restart (config : Config) (stop : Option Timestamp) :
    fixedLane (restart config stop) = none := by
  cases stop <;> rfl

theorem fixedLane_withRestarts (config : Config) (stops : ℕ → Option Timestamp)
    (frames : List Frame) (hostClock : Timestamp) :
    fixedLane (withRestarts config stops frames ++ [.finish hostClock]) =
      fixedLane (frames.map .frame) := by
  rw [fixedLane_append]
  induction frames generalizing stops with
  | nil =>
      rw [withRestarts, fixedLane_restart]
      rfl
  | cons f fs ih =>
      have hrest := ih fun n => stops (n + 1)
      rw [withRestarts, fixedLane_append, fixedLane_restart, Option.none_or, List.map_cons]
      simp only [fixedLane, List.findSome?_cons] at hrest ⊢
      cases hlane : (PipelineCall.frame f).lane? with
      | none => exact hrest
      | some lane => rfl

end PipelineCall

open PipelineCall

namespace Intake
variable {i : Intake} {config : Config} (lane : Option Lane) (year : YearEpoch)

/-- A start with the settings in force changes nothing about the frames to come. -/
theorem keptFrames_restart (hi : i.after (.resume config) = i) (stop : Option Timestamp)
    (calls : List PipelineCall) :
    i.keptFrames lane year (restart config stop ++ calls) = i.keptFrames lane year calls := by
  cases stop with
  | none => rfl
  | some hostClock =>
      change [] ++ ([] ++ (i.after (.resume config)).keptFrames lane year calls) = _
      rw [hi]
      rfl

theorem keptFrames_withRestarts (hi : i.after (.resume config) = i)
    (stops : ℕ → Option Timestamp) (frames : List Frame) (hostClock : Timestamp) :
    i.keptFrames lane year (withRestarts config stops frames ++ [.finish hostClock]) =
      i.keptFrames lane year (frames.map .frame) := by
  induction frames generalizing stops year with
  | nil => exact keptFrames_restart lane year hi _ _
  | cons f fs ih =>
      rw [withRestarts, List.append_assoc, keptFrames_restart lane year hi, List.cons_append,
        List.map_cons, keptFrames, keptFrames]
      exact congrArg (i.keptOf lane year (.frame f) ++ ·) (ih _ _)

theorem keptSamples_eq (i : Intake) (lane : Lane) (year : YearEpoch)
    (calls : List PipelineCall) :
    i.keptSamples (some lane) calls = (i.keptFrames (some lane) year calls).flatMap fun k =>
      Sample.decode lane k.order k.frame.payload := by
  induction calls generalizing i year with
  | nil => rfl
  | cons c cs ih =>
      rw [keptSamples, keptFrames, List.flatMap_append, ih (i.after c) (year.after (some lane) c)]
      congr 1
      cases c with
      | frame f =>
          rw [contribution, keptOf]
          split
          · simp
          · rfl
      | _ => rfl

theorem keptSamples_none (i : Intake) (calls : List PipelineCall) :
    i.keptSamples none calls = [] := by
  induction calls generalizing i with
  | nil => rfl
  | cons c cs ih =>
      rw [keptSamples, ih, List.append_nil]
      cases c with
      | frame f => simp [contribution]
      | _ => rfl

end Intake

namespace PipelineState

/-- Two pipelines know the same of their stream, whatever was pushed so far. -/
structure SameTracking (t u : PipelineState) : Prop where
  external : u.external = t.external
  sequence : u.pipeline.sequence = t.pipeline.sequence
  clock : u.pipeline.clock = t.pipeline.clock
  epoch : u.pipeline.epoch = t.pipeline.epoch
  lane : u.pipeline.lane = t.pipeline.lane
  configured : u.pipeline.configuredOrder = t.pipeline.configuredOrder
  policy : u.pipeline.scheduler.policy = t.pipeline.scheduler.policy
  withheld : u.pipeline.scheduler.withheld = t.pipeline.scheduler.withheld
  counters : u.counters = t.counters.setOrder u.counters.order

theorem SameTracking.refl (t : PipelineState) : t.SameTracking t :=
  ⟨rfl, rfl, rfl, rfl, rfl, rfl, rfl, rfl, rfl⟩

end PipelineState

namespace Pipeline

theorem noteStream_setOrder (c : Counters) (before order : ByteOrder) (h : Header) :
    noteStream (c.setOrder before) order h = noteStream c order h := by
  unfold noteStream
  split <;> rfl

end Pipeline

namespace PipelineState
variable {t u : PipelineState} {i : Intake}

theorem SameTracking.frame (h : t.SameTracking u) (ht : t.pipeline.Aligned)
    (hu : u.pipeline.Aligned) (f : Frame) :
    (t.call (.frame f)).1.SameTracking (u.call (.frame f)).1 := by
  have hlane : u.pipeline.laneFor f.header.bitsPerSample =
      t.pipeline.laneFor f.header.bitsPerSample := by
    simp only [Pipeline.laneFor, h.lane]
  have hsequence : (u.pipeline.track u.counters f.header).1.sequence =
      (t.pipeline.track t.counters f.header).1.sequence := by
    simp only [Pipeline.track, h.sequence]
  have hclock : (u.pipeline.track u.counters f.header).1.clock =
      (t.pipeline.track t.counters f.header).1.clock := by
    simp only [Pipeline.track, h.sequence, h.clock]
  have htracked : (u.pipeline.track u.counters f.header).2 =
      (t.pipeline.track t.counters f.header).2.setOrder u.counters.order := by
    rw [h.counters]
    simp only [Pipeline.track, h.sequence, h.clock]
    rfl
  cases hl : t.pipeline.laneFor f.header.bitsPerSample with
  | none =>
      rw [hl] at hlane
      simp only [call, Pipeline.handle_rejected _ _ hl, Pipeline.handle_rejected _ _ hlane]
      refine ⟨h.external, hsequence, hclock, h.epoch, h.lane, h.configured, h.policy,
        h.withheld, ?_⟩
      rw [htracked]
      rfl
  | some lane =>
      rw [hl] at hlane
      have hcounters := Pipeline.handle_accepted_counters t.external t.counters hl
      have hcounters' := Pipeline.handle_accepted_counters u.external u.counters hlane
      simp only [call, (Pipeline.handle_accepted _ _ hl).1,
        (Pipeline.handle_accepted _ _ hlane).1, ht.offer_eq_take hl, hu.offer_eq_take hlane]
      refine ⟨h.external, hsequence, hclock, ?_, rfl, h.configured, ?_, ?_, ?_⟩
      · simp only [h.epoch]
      · simpa using h.policy
      · simp only [Scheduler.take_withheld_eq, Pipeline.wakeScheduler_policy,
          Pipeline.wakeScheduler_withheld, h.policy, h.withheld]
        rfl
      · have horder : u.pipeline.orderInForce u.external =
            t.pipeline.orderInForce t.external := by
          simp only [Pipeline.orderInForce, h.external, h.configured]
        -- A frame of the lane reports the byte order in force anew.
        have hsame : (u.pipeline.handle u.external u.counters f).2.1 =
            (t.pipeline.handle t.external t.counters f).2.1 := by
          rw [hcounters, hcounters', htracked, h.lane, horder]
          split
          · exact Pipeline.noteStream_setOrder
              ((t.pipeline.track t.counters f.header).2.setBitsPerSample lane.bits) _ _ _
          · exact Pipeline.noteStream_setOrder _ _ _ _
        rw [hsame]
        rfl

/-- What a stop and a start leave behind is known by both. -/
theorem SameTracking.restart (h : t.SameTracking u) {config : Config}
    (ht : t.Follows (.ofConfig t.external config)) (stop : Option Timestamp) :
    t.SameTracking (u.run (restart config stop)).1 := by
  cases stop with
  | none => exact h
  | some hostClock =>
      let ended := u.pipeline.finish hostClock
      let restarted := u.run (PipelineCall.restart config (some hostClock))
      obtain ⟨held, state, hscheduler⟩ :=
        ended.1.resume_scheduler u.external u.counters config
      have hrun : restarted.1.pipeline.scheduler = _ := hscheduler
      refine ⟨h.external, h.sequence, h.clock, h.epoch, h.lane, ht.order.symm, ?_, ?_, ?_⟩
      · rw [hrun, ht.policy]
        rfl
      · rw [hrun, ← h.withheld]
        simp [ended, Pipeline.finish, Scheduler.finish]
      · change u.counters.setOrder _ = t.counters.setOrder _
        rw [h.counters]
        rfl

theorem SameTracking.finish (h : t.SameTracking u) (hostClock₁ hostClock₂ : Timestamp) :
    (t.call (.finish hostClock₁)).1.SameTracking (u.call (.finish hostClock₂)).1 := by
  refine ⟨h.external, h.sequence, h.clock, h.epoch, h.lane, h.configured, ?_, ?_, h.counters⟩
  · simpa [call, Pipeline.finish, Scheduler.finish] using h.policy
  · simpa [call, Pipeline.finish, Scheduler.finish] using h.withheld

theorem run_sameTracking (h : t.SameTracking u) (ht : t.pipeline.Intact)
    (hu : u.pipeline.Intact) {config : Config} (hi : t.Follows (.ofConfig t.external config))
    (stops : ℕ → Option Timestamp) (frames : List Frame) :
    (t.run (frames.map .frame)).1.SameTracking (u.run (withRestarts config stops frames)).1 := by
  induction frames generalizing t u stops with
  | nil => exact h.restart hi (stops 0)
  | cons f fs ih =>
      have hstopped := h.restart hi (stops 0)
      have hintact := run_intact hu (PipelineCall.restart config (stops 0))
      have hnext := hstopped.frame ht.toAligned hintact.toAligned f
      have hlater := ih hnext (call_intact ht _) (call_intact hintact _) (hi.call ht _)
        fun n => stops (n + 1)
      rw [withRestarts, run_append, List.map_cons]
      exact hlater

section Stream
variable {config : Config} (ht : t.pipeline.Intact) (h : t.Follows i)
  (hi : i.after (.resume config) = i) (hfresh : t.pipeline.lane = none)
  (hopen : t.pipeline.scheduler.batch = none) (stops : ℕ → Option Timestamp)
  (frames : List Frame) (hostClock : Timestamp)

include h hi hfresh hopen

theorem run_stream_delivers {attachId : String} (ht : t.pipeline.Informed attachId) :
    ∃ delivered, List.Forall₂ (KeptFrame.Offered attachId)
        (i.keptFrames (fixedLane (frames.map .frame)) t.pipeline.epoch (frames.map .frame))
        delivered ∧
      Push.Deliver (t.run (withRestarts config stops frames ++ [.finish hostClock])).2
        delivered := by
  obtain ⟨offers, out, rest, hoffers, hsplit, hout, hrest⟩ :=
    run_delivers ht h (.of_none hopen) (withRestarts config stops frames ++ [.finish hostClock])
  have hclosed :
      (t.run (withRestarts config stops frames ++ [.finish hostClock])).1.pipeline.scheduler.batch =
        none := by
    rw [run_append]
    simp [run_cons, call, Pipeline.finish, Scheduler.finish]
  rw [hfresh, Option.none_or, fixedLane_withRestarts,
    Intake.keptFrames_withRestarts _ _ hi] at hoffers
  rw [Scheduler.Gathers, hclosed] at hrest
  rw [List.nil_append, hrest, List.append_nil] at hsplit
  exact ⟨offers, hoffers, hsplit ▸ hout⟩

include ht

theorem run_stream_carried :
    Push.carried (t.run (withRestarts config stops frames ++ [.finish hostClock])).2 =
      (fixedLane (frames.map .frame)).toList.flatMap fun lane =>
        (i.keptFrames (some lane) t.pipeline.epoch (frames.map .frame)).flatMap fun k =>
          Sample.decode lane k.order k.frame.payload := by
  have hheld : t.held = [] := by simp [held, Scheduler.held, hopen]
  have hclosed : (t.run (withRestarts config stops frames ++ [.finish hostClock])).1.held = [] := by
    rw [run_append]
    simp [run_cons, call, held, Scheduler.held, Pipeline.finish, Scheduler.finish]
  have hcarried := run_carried ht h (withRestarts config stops frames ++ [.finish hostClock])
  rw [hheld, hclosed, List.append_nil, List.nil_append, hfresh, Option.none_or,
    fixedLane_withRestarts] at hcarried
  rw [hcarried]
  cases fixedLane (frames.map .frame) with
  | none => exact i.keptSamples_none _
  | some lane =>
      rw [i.keptSamples_eq lane t.pipeline.epoch, Intake.keptFrames_withRestarts _ _ hi]
      exact (List.flatMap_singleton _ _).symm

end Stream

/-- Stopping and starting again, anywhere between the frames of a stream, changes neither what
is known of the stream nor what is delivered of it. At the end both trackers, the year, the
lane, the count of withheld frames and the figures are the same, but for the byte order
reported. The pushes carry the same samples and count as many frames, and they deliver the
same kept frames one by one, each at its time. -/
theorem run_withRestarts (attachId : String) (config : Config) (year : Int)
    (external : Option Sri) (counters : Counters) (frames : List Frame)
    (stops : ℕ → Option Timestamp) (hostClock₁ hostClock₂ : Timestamp) :
    let start := PipelineState.ofConfig attachId config year external counters
    let plain := start.run (frames.map .frame ++ [.finish hostClock₁])
    let broken := start.run (withRestarts config stops frames ++ [.finish hostClock₂])
    let kept := (Intake.ofConfig external config).keptFrames (fixedLane (frames.map .frame))
      (.ofYear year) (frames.map .frame)
    plain.1.SameTracking broken.1 ∧
      Push.carried broken.2 = Push.carried plain.2 ∧
      Push.frameTotal broken.2 = Push.frameTotal plain.2 ∧
      (∃ delivered, List.Forall₂ (KeptFrame.Offered attachId) kept delivered ∧
        Push.Deliver plain.2 delivered) ∧
      ∃ delivered, List.Forall₂ (KeptFrame.Offered attachId) kept delivered ∧
        Push.Deliver broken.2 delivered := by
  intro start plain broken kept
  have hstart : start.pipeline.Informed attachId := .ofConfig attachId config year
  have hfollows : start.Follows (.ofConfig external config) :=
    .ofConfig attachId config year external counters
  -- The plain run is the one without stops.
  have hplain : plain = start.run
      (withRestarts config (fun _ => none) frames ++ [.finish hostClock₁]) := by
    rw [withRestarts_none]
  obtain ⟨out, hout, hdelivered⟩ := run_stream_delivers hfollows rfl rfl rfl (fun _ => none)
    frames hostClock₁ hstart
  obtain ⟨again, hagain, hredelivered⟩ := run_stream_delivers hfollows rfl rfl rfl stops
    frames hostClock₂ hstart
  rw [← hplain] at hdelivered
  refine ⟨?_, ?_, ?_, ⟨out, hout, hdelivered⟩, ⟨again, hagain, hredelivered⟩⟩
  · have hplayed := run_sameTracking (.refl start) hstart.toIntact hstart.toIntact hfollows
      stops frames
    have hended := hplayed.finish hostClock₁ hostClock₂
    simp only [plain, broken, run_append]
    exact hended
  · rw [hplain]
    exact (run_stream_carried hstart.toIntact hfollows rfl rfl rfl stops frames hostClock₂).trans
      (run_stream_carried hstart.toIntact hfollows rfl rfl rfl _ frames hostClock₁).symm
  · have hcount : Push.frameTotal plain.2 = out.length := hdelivered.frameTotal
    have hrecount : Push.frameTotal broken.2 = again.length := hredelivered.frameTotal
    rw [hcount, hrecount, ← hout.length_eq, ← hagain.length_eq]

end PipelineState

end SddsReceiver
