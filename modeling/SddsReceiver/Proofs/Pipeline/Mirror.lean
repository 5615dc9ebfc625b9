import SddsReceiver.Proofs.Pipeline.Announcement
import SddsReceiver.Proofs.Receiver.Figures

/-!
# Frames of another width

A frame whose width is not that of the lane is tracked and then discarded. The trackers read
the headers of all frames alike, so they are a fold over the headers, and the counters show
what they know after every call.

Nothing else of a pipeline reads the trackers. Two pipelines that differ in their trackers only
answer every call with the same pushes and differ in nothing more afterwards; so frames that
are discarded might as well never have come.
-/
namespace SddsReceiver

structure Trackers where
  sequence : SequenceTracker
  clock : ClockTracker

namespace Trackers

def initial : Trackers := ⟨.initial, .initial⟩

/-- Note the sequence number and then the time of a frame. -/
def take (t : Trackers) (h : Header) : Trackers :=
  let (sequence, missing) := t.sequence.accept h.sequenceNumber
  ⟨sequence, (t.clock.observe h missing).1⟩

end Trackers

def PipelineCall.header? : PipelineCall → Option Header
  | .frame f => some f.header
  | .describe _ | .finish _ | .resume _ => none

/-- The call brings no frame of another width than that of the lane. -/
def PipelineCall.inLane (lane : Option Lane) : PipelineCall → Bool
  | .frame f => f.fits lane
  | .describe _ | .finish _ | .resume _ => true

namespace Pipeline
variable (p : Pipeline) (t : Trackers) (external : Option Sri) (c d : Counters) (f : Frame)

def trackers : Trackers := ⟨p.sequence, p.clock⟩

def withTrackers : Pipeline := { p with sequence := t.sequence, clock := t.clock }

/-- The width of a frame is not that of the lane, or no lane has it. -/
def Rejects : Prop :=
  match p.lane with
  | some lane => lane.bits ≠ f.header.bitsPerSample
  | none => ∀ lane : Lane, lane.bits ≠ f.header.bitsPerSample

variable {p f}

theorem rejects_iff : p.Rejects f ↔ p.laneFor f.header.bitsPerSample = none := by
  cases hl : p.lane with
  | some lane => simp [Rejects, laneFor, hl]
  | none =>
      simp only [Rejects, laneFor, hl]
      constructor
      · intro hother
        cases hbits : Lane.ofBits f.header.bitsPerSample with
        | none => rfl
        | some lane => exact (hother lane (Lane.bits_of_ofBits hbits)).elim
      · intro hnone lane hbits
        rw [← hbits, Lane.ofBits_bits] at hnone
        cases hnone

variable (p f)

theorem track_eq_withTrackers (h : Header) :
    (p.track c h).1 = p.withTrackers (p.trackers.take h) := rfl

theorem handle_trackers :
    (p.handle external c f).1.trackers = p.trackers.take f.header := by
  cases hl : p.laneFor f.header.bitsPerSample with
  | none =>
      rw [handle_rejected external c hl]
      rfl
  | some lane =>
      rw [(handle_accepted external c hl).1]
      rfl

/-- What a frame does to the rest of a pipeline does not depend on the trackers. -/
theorem handle_withTrackers :
    ((p.withTrackers t).handle external c f).1 =
        (p.handle external d f).1.withTrackers (t.take f.header) ∧
      ((p.withTrackers t).handle external c f).2.2 = (p.handle external d f).2.2 := by
  cases hl : p.laneFor f.header.bitsPerSample with
  | none =>
      have hother : (p.withTrackers t).laneFor f.header.bitsPerSample = none := hl
      rw [handle_rejected external d hl, handle_rejected external c hother]
      exact ⟨rfl, rfl⟩
  | some lane =>
      have hother : (p.withTrackers t).laneFor f.header.bitsPerSample = some lane := hl
      obtain ⟨hnext, hpushes⟩ := handle_accepted external d hl
      obtain ⟨hnext', hpushes'⟩ := handle_accepted external c hother
      rw [hnext, hnext', hpushes, hpushes']
      exact ⟨rfl, rfl⟩

end Pipeline

namespace PipelineState
variable (t : PipelineState)

theorem call_trackers (c : PipelineCall) :
    (t.call c).1.pipeline.trackers =
      (c.header?.toList).foldl Trackers.take t.pipeline.trackers := by
  cases c with
  | frame f => exact t.pipeline.handle_trackers t.external t.counters f
  | describe external => rfl
  | finish hostClock => rfl
  | resume config => rfl

theorem run_trackers (calls : List PipelineCall) :
    (t.run calls).1.pipeline.trackers =
      (calls.filterMap PipelineCall.header?).foldl Trackers.take t.pipeline.trackers := by
  induction calls generalizing t with
  | nil => rfl
  | cons c cs ih =>
      rw [run_cons, ih, call_trackers]
      cases hc : c.header? <;> simp [hc]

theorem call_show {t : PipelineState} (h : t.counters.Show t.pipeline) (c : PipelineCall) :
    (t.call c).1.counters.Show (t.call c).1.pipeline := by
  cases c with
  | describe external => exact h
  | finish hostClock => exact ⟨h.dropped, h.timeSlips, h.expected, h.bits⟩
  | frame f => exact (t.pipeline.handle_follow t.external t.counters f).show h
  | resume config => exact (t.pipeline.resume_follow t.external t.counters config).show h

theorem run_show {t : PipelineState} (h : t.counters.Show t.pipeline)
    (calls : List PipelineCall) :
    (t.run calls).1.counters.Show (t.run calls).1.pipeline := by
  induction calls generalizing t with
  | nil => exact h
  | cons c cs ih => exact ih (call_show h c)

/-- The frames that find their lane are those of the width that is fixed in the end. -/
theorem fits_fixedLane (f : Frame) (later : List PipelineCall) :
    f.fits (t.pipeline.lane.or (PipelineCall.fixedLane (.frame f :: later))) =
      (t.pipeline.laneFor f.header.bitsPerSample).isSome := by
  have hfits : f.fits ((t.pipeline.lane.or (PipelineCall.frame f).lane?).or
      (PipelineCall.fixedLane later)) = f.fits (t.pipeline.lane.or (PipelineCall.frame f).lane?) :=
    f.fits_or _ _
  rw [or_fixedLane_cons, call_lane, hfits, ← call_lane]
  cases hl : t.pipeline.laneFor f.header.bitsPerSample with
  | none =>
      simp only [call, Pipeline.handle_rejected _ _ hl]
      exact fits_rejected hl
  | some lane =>
      simp only [call, (Pipeline.handle_accepted _ _ hl).1]
      exact fits_accepted hl

structure SameApart (t u : PipelineState) : Prop where
  external : u.external = t.external
  pipeline : u.pipeline = t.pipeline.withTrackers u.pipeline.trackers

namespace SameApart
variable {t u : PipelineState}

theorem refl (t : PipelineState) : t.SameApart t := ⟨rfl, rfl⟩

theorem call (h : t.SameApart u) (c : PipelineCall) :
    (t.call c).1.SameApart (u.call c).1 ∧ (u.call c).2 = (t.call c).2 := by
  obtain ⟨p, external, counters⟩ := t
  obtain ⟨q, external', counters'⟩ := u
  obtain ⟨rfl, hpipeline⟩ := h
  dsimp only at hpipeline
  rw [hpipeline]
  cases c with
  | describe external => exact ⟨⟨rfl, rfl⟩, rfl⟩
  | finish hostClock => exact ⟨⟨rfl, rfl⟩, rfl⟩
  | resume config => exact ⟨⟨rfl, rfl⟩, rfl⟩
  | frame f =>
      obtain ⟨hnext, hpushes⟩ := p.handle_withTrackers q.trackers external' counters' counters f
      refine ⟨⟨rfl, ?_⟩, hpushes⟩
      simp only [PipelineState.call, hnext]
      rfl

theorem rejected (h : t.SameApart u) {f : Frame}
    (hl : u.pipeline.laneFor f.header.bitsPerSample = none) :
    t.SameApart (u.call (.frame f)).1 ∧ (u.call (.frame f)).2 = [] := by
  simp only [PipelineState.call, Pipeline.handle_rejected _ _ hl]
  refine ⟨⟨h.external, ?_⟩, trivial⟩
  rw [Pipeline.track_eq_withTrackers, h.pipeline]
  rfl

/-- Leaving out the frames of another width changes no push. -/
theorem run (h : t.SameApart u) (calls : List PipelineCall) :
    let lane := u.pipeline.lane.or (PipelineCall.fixedLane calls)
    let kept := calls.filter (PipelineCall.inLane lane)
    (t.run kept).1.SameApart (u.run calls).1 ∧ (u.run calls).2 = (t.run kept).2 := by
  induction calls generalizing t u with
  | nil => exact ⟨h, rfl⟩
  | cons c cs ih =>
      intro lane kept
      have hlane : lane = (u.call c).1.pipeline.lane.or (PipelineCall.fixedLane cs) :=
        u.or_fixedLane_cons c cs
      rw [run_cons]
      cases hkept : c.inLane lane with
      | true =>
          obtain ⟨hnext, hpushes⟩ := h.call c
          obtain ⟨hlast, hrest⟩ := ih hnext
          rw [← hlane] at hlast hrest
          have hcalls : kept = c :: cs.filter (PipelineCall.inLane lane) :=
            List.filter_cons_of_pos hkept
          rw [hcalls, run_cons, hpushes, hrest]
          exact ⟨hlast, rfl⟩
      | false =>
          cases c with
          | frame f =>
              have hl : u.pipeline.laneFor f.header.bitsPerSample = none := by
                have hfits := u.fits_fixedLane f cs
                rw [show f.fits _ = false from hkept] at hfits
                simpa using hfits.symm
              obtain ⟨hnext, hpushes⟩ := h.rejected hl
              obtain ⟨hlast, hrest⟩ := ih hnext
              rw [← hlane] at hlast hrest
              have hcalls : kept = cs.filter (PipelineCall.inLane lane) :=
                List.filter_cons_of_neg (by simp [hkept])
              rw [hcalls, hpushes, hrest]
              exact ⟨hlast, rfl⟩
          | describe external => cases hkept
          | finish hostClock => cases hkept
          | resume config => cases hkept

end SameApart

/-- Whatever is called on a pipeline with cleared counters, these report what its trackers and
its lane are, and the trackers have taken the headers of all frames in order. The lane stays
once it is fixed. A frame that is rejected for its width is taken by the trackers as in any
other lane; it is not pushed and changes nothing else of the pipeline, so that the run is the
same without such frames. -/
theorem run_mirrors_trackers (attachId : String) (config : Config) (year : Int)
    (external : Option Sri) (counters : Counters) (calls : List PipelineCall) :
    let start := ofConfig attachId config year external counters.resetStream
    let s := (start.run calls).1
    (∀ emptySlots queuedFrames queueDepth,
        (s.counters.snapshot emptySlots queuedFrames queueDepth).counters.Show s.pipeline) ∧
      s.pipeline.trackers =
        (calls.filterMap PipelineCall.header?).foldl Trackers.take .initial ∧
      (∀ lane more, s.pipeline.lane = some lane →
        (start.run (calls ++ more)).1.pipeline.lane = some lane) ∧
      (∀ f, s.pipeline.Rejects f →
        (s.call (.frame f)).2 = [] ∧
          (s.call (.frame f)).1.pipeline =
            s.pipeline.withTrackers (s.pipeline.trackers.take f.header) ∧
          ∀ lane, (call { s with pipeline.lane := lane } (.frame f)).1.pipeline.trackers =
            s.pipeline.trackers.take f.header) ∧
      let kept := start.run (calls.filter (PipelineCall.inLane (PipelineCall.fixedLane calls)))
      (start.run calls).2 = kept.2 ∧
        s.pipeline = kept.1.pipeline.withTrackers s.pipeline.trackers := by
  intro start s
  have hshow : start.counters.Show start.pipeline := ⟨rfl, rfl, rfl, rfl⟩
  refine ⟨?_, start.run_trackers calls, ?_, ?_, ?_⟩
  · intro emptySlots queuedFrames queueDepth
    exact run_show hshow calls
  · intro lane more hlane
    rw [run_append, run_lane, hlane]
    rfl
  · intro f hrejects
    have hl := Pipeline.rejects_iff.mp hrejects
    refine ⟨?_, ?_, ?_⟩
    · simp only [call, Pipeline.handle_rejected _ _ hl]
    · simp only [call, Pipeline.handle_rejected _ _ hl, Pipeline.track_eq_withTrackers]
    · intro lane
      exact call_trackers { s with pipeline.lane := lane } (.frame f)
  · intro kept
    obtain ⟨hsame, hpushes⟩ := (SameApart.refl start).run calls
    exact ⟨hpushes, hsame.pipeline⟩

end PipelineState

end SddsReceiver
