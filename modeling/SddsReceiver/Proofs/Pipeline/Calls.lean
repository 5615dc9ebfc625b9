import SddsReceiver.Pipeline
import SddsReceiver.Proofs.Push.Steps

/-!
# Calls on one pipeline

The life of a pipeline is a sequence of calls: the outside description is replaced, a frame
is taken, the stream is ended or taken up again. A call is described by what it does to each
part of the pipeline, so that later proofs need not open the definitions. The scheduler's
lane is always the pipeline's.
-/
namespace SddsReceiver

inductive PipelineCall where
  /-- Replace the outside description, or clear it. -/
  | describe (external : Option Sri)
  | frame (f : Frame)
  | finish (hostClock : Timestamp)
  | resume (config : Config)

/-- A pipeline with what it shares with the rest of the receiver. -/
structure PipelineState where
  pipeline : Pipeline
  external : Option Sri
  counters : Counters

namespace PipelineState

/-- The pipeline of a new attachment. The configured byte order is reported at once. -/
def ofConfig (attachId : String) (config : Config) (year : Int) (external : Option Sri)
    (counters : Counters) : PipelineState :=
  ⟨.ofConfig attachId config year, external, counters.setOrder config.order⟩

def call (t : PipelineState) : PipelineCall → PipelineState × List Push
  | .describe external => ({ t with external := external }, [])
  | .frame f =>
      let (pipeline, counters, pushes) := t.pipeline.handle t.external t.counters f
      (⟨pipeline, t.external, counters⟩, pushes)
  | .finish hostClock =>
      let (pipeline, pushes) := t.pipeline.finish hostClock
      ({ t with pipeline := pipeline }, pushes)
  | .resume config =>
      let (pipeline, counters) := t.pipeline.resume t.external t.counters config
      (⟨pipeline, t.external, counters⟩, [])

def run (t : PipelineState) : List PipelineCall → PipelineState × List Push
  | [] => (t, [])
  | c :: cs =>
      let (next, pushes) := t.call c
      let (last, rest) := next.run cs
      (last, pushes ++ rest)

@[simp] theorem run_nil (t : PipelineState) : t.run [] = (t, []) := rfl

theorem run_cons (t : PipelineState) (c : PipelineCall) (cs : List PipelineCall) :
    t.run (c :: cs) =
      (((t.call c).1.run cs).1, (t.call c).2 ++ ((t.call c).1.run cs).2) := rfl

theorem run_append (t : PipelineState) (first second : List PipelineCall) :
    t.run (first ++ second) =
      (((t.run first).1.run second).1, (t.run first).2 ++ ((t.run first).1.run second).2) := by
  induction first generalizing t with
  | nil => rfl
  | cons c cs ih => simp only [List.cons_append, run_cons, ih, List.append_assoc]

end PipelineState

namespace Pipeline

section Track
variable (p : Pipeline) (c : Counters) (h : Header)

@[simp] theorem track_lane : (p.track c h).1.lane = p.lane := rfl
@[simp] theorem track_scheduler : (p.track c h).1.scheduler = p.scheduler := rfl

@[simp] theorem track_laneFor (bits : UInt8) :
    (p.track c h).1.laneFor bits = p.laneFor bits := rfl

end Track

theorem lane_of_laneFor {p : Pipeline} {bits : UInt8} {lane : Lane}
    (h : p.laneFor bits = some lane) : p.lane = none ∨ p.lane = some lane := by
  cases hl : p.lane with
  | none => exact .inl rfl
  | some fixed =>
      simp only [laneFor, hl, Option.ite_none_right_eq_some, Option.some.injEq] at h
      exact .inr (congrArg some h.2)

theorem bits_of_laneFor {p : Pipeline} {bits : UInt8} {lane : Lane}
    (h : p.laneFor bits = some lane) : lane.bits = bits := by
  cases hl : p.lane with
  | none =>
      simp only [laneFor, hl] at h
      exact Lane.bits_of_ofBits h
  | some fixed =>
      simp only [laneFor, hl, Option.ite_none_right_eq_some, Option.some.injEq] at h
      rw [← h.2]
      exact h.1

def offerOf (p : Pipeline) (external : Option Sri) (f : Frame) : Offer where
  payload := f.payload
  order := p.orderInForce external
  timeValid := f.header.timeValid
  timestamp := (p.epoch.timestamp f.header.time f.header.timeValid).2
  sri := (p.merger.merge external f.header).2.1
  sriChanged := (p.merger.merge external f.header).2.2

section Handle
variable {p : Pipeline} (external : Option Sri) (c : Counters) {f : Frame} {lane : Lane}

/-- A frame of another width is only tracked. -/
theorem handle_rejected (h : p.laneFor f.header.bitsPerSample = none) :
    p.handle external c f = ((p.track c f.header).1, (p.track c f.header).2, []) := by
  simp only [handle, track_laneFor, h]

/-- A frame of the lane moves every part of the pipeline once. -/
theorem handle_accepted (h : p.laneFor f.header.bitsPerSample = some lane) :
    (p.handle external c f).1 =
        { (p.track c f.header).1 with
          lane := some lane
          merger := (p.merger.merge external f.header).1
          epoch := (p.epoch.timestamp f.header.time f.header.timeValid).1
          scheduler := ((p.wakeScheduler lane).offer (p.offerOf external f)).1 } ∧
      (p.handle external c f).2.2 = ((p.wakeScheduler lane).offer (p.offerOf external f)).2 := by
  cases hl : p.lane with
  | none =>
      simp only [handle, track_laneFor, h, fixLane, track_lane, hl, schedule]
      exact ⟨rfl, rfl⟩
  | some fixed =>
      have hfixed : fixed = lane := by
        rcases lane_of_laneFor h with hn | hs <;> simp_all
      subst hfixed
      simp only [handle, track_laneFor, h, fixLane, track_lane, hl, schedule]
      exact ⟨by simp only [← hl]; rfl, rfl⟩

theorem handle_accepted_counters (h : p.laneFor f.header.bitsPerSample = some lane) :
    (p.handle external c f).2.1 =
      noteStream (if p.lane.isNone then (p.track c f.header).2.setBitsPerSample lane.bits
        else (p.track c f.header).2) (p.orderInForce external) f.header := by
  cases hl : p.lane with
  | none =>
      simp only [handle, track_laneFor, h, fixLane, track_lane, hl]
      rfl
  | some fixed =>
      simp only [handle, track_laneFor, h, fixLane, track_lane, hl]
      rfl

structure SameSocket (c d : Counters) : Prop where
  received : d.received = c.received
  malformed : d.malformed = c.malformed
  port : d.port = c.port
  socketBuffer : d.socketBuffer = c.socketBuffer

theorem SameSocket.trans {c d e : Counters} (h : SameSocket c d) (hnext : SameSocket d e) :
    SameSocket c e :=
  ⟨hnext.received.trans h.received, hnext.malformed.trans h.malformed, hnext.port.trans h.port,
    hnext.socketBuffer.trans h.socketBuffer⟩

theorem handle_sameSocket (p : Pipeline) (f : Frame) :
    SameSocket c (p.handle external c f).2.1 := by
  cases h : p.laneFor f.header.bitsPerSample with
  | none =>
      rw [handle_rejected external c h]
      exact ⟨rfl, rfl, rfl, rfl⟩
  | some lane =>
      rw [handle_accepted_counters external c h, noteStream]
      split <;> split <;> exact ⟨rfl, rfl, rfl, rfl⟩

theorem handleAll_sameSocket (p : Pipeline) (frames : List Frame) :
    SameSocket c (p.handleAll external c frames).2.1 := by
  induction frames generalizing p c with
  | nil => exact ⟨rfl, rfl, rfl, rfl⟩
  | cons f fs ih => exact (handle_sameSocket external c p f).trans (ih _ _)

end Handle

structure Aligned (p : Pipeline) : Prop where
  lane_eq : p.scheduler.lane = p.lane
  awake : p.scheduler.state = .accumulating → p.lane.isSome

section Wake
variable (p : Pipeline) (lane : Lane)

theorem wakeScheduler_eq : ∃ held, p.wakeScheduler lane =
    { p.scheduler with lane := held, state := .accumulating } := by
  cases h : p.scheduler.state with
  | idle => exact ⟨some lane, by simp only [wakeScheduler, h, Scheduler.begin]⟩
  | accumulating =>
      have hawake : p.wakeScheduler lane = p.scheduler := by simp only [wakeScheduler, h]
      exact ⟨p.scheduler.lane, by rw [hawake, ← h]⟩

@[simp] theorem wakeScheduler_batch : (p.wakeScheduler lane).batch = p.scheduler.batch := by
  obtain ⟨held, hwake⟩ := p.wakeScheduler_eq lane
  rw [hwake]

@[simp] theorem wakeScheduler_policy : (p.wakeScheduler lane).policy = p.scheduler.policy := by
  obtain ⟨held, hwake⟩ := p.wakeScheduler_eq lane
  rw [hwake]

@[simp] theorem wakeScheduler_state : (p.wakeScheduler lane).state = .accumulating := by
  obtain ⟨held, hwake⟩ := p.wakeScheduler_eq lane
  rw [hwake]

@[simp] theorem wakeScheduler_withheld :
    (p.wakeScheduler lane).withheld = p.scheduler.withheld := by
  obtain ⟨held, hwake⟩ := p.wakeScheduler_eq lane
  rw [hwake]

theorem resume_scheduler (external : Option Sri) (c : Counters) (config : Config) :
    ∃ held state, (p.resume external c config).1.scheduler =
      { p.scheduler with policy := config.pushPolicy, lane := held, state := state } := by
  cases h : p.lane with
  | none => exact ⟨p.scheduler.lane, p.scheduler.state, by simp only [Pipeline.resume, h]; rfl⟩
  | some fixed => exact ⟨some fixed, .accumulating, by simp only [Pipeline.resume, h]; rfl⟩

end Wake

namespace Aligned
variable {p : Pipeline}

theorem ofConfig (attachId : String) (config : Config) (year : Int) :
    (Pipeline.ofConfig attachId config year).Aligned :=
  ⟨rfl, fun h => by cases h⟩

theorem wake_lane (hp : p.Aligned) {bits : UInt8} {lane : Lane}
    (h : p.laneFor bits = some lane) : (p.wakeScheduler lane).lane = some lane := by
  cases hs : p.scheduler.state with
  | idle => simp [wakeScheduler, hs, Scheduler.begin]
  | accumulating =>
      have hsome := hp.awake hs
      rcases lane_of_laneFor h with hl | hl
      · simp [hl] at hsome
      · simp [wakeScheduler, hs, hp.lane_eq, hl]

theorem offer_eq_take (hp : p.Aligned) {bits : UInt8} {lane : Lane}
    (h : p.laneFor bits = some lane) (o : Offer) :
    (p.wakeScheduler lane).offer o = (p.wakeScheduler lane).take lane o := by
  simp only [Scheduler.offer, hp.wake_lane h, wakeScheduler_state]

theorem handle (hp : p.Aligned) (external : Option Sri) (c : Counters) (f : Frame) :
    (p.handle external c f).1.Aligned := by
  cases h : p.laneFor f.header.bitsPerSample with
  | none =>
      rw [handle_rejected _ _ h]
      exact ⟨hp.lane_eq, hp.awake⟩
  | some lane =>
      rw [(handle_accepted _ _ h).1, hp.offer_eq_take h]
      exact ⟨by simp [hp.wake_lane h], fun _ => rfl⟩

theorem finish (hp : p.Aligned) (hostClock : Timestamp) : (p.finish hostClock).1.Aligned :=
  ⟨by simpa [Pipeline.finish, Scheduler.finish] using hp.lane_eq,
    fun h => by simp [Pipeline.finish, Scheduler.finish] at h⟩

theorem resume (hp : p.Aligned) (external : Option Sri) (c : Counters) (config : Config) :
    (p.resume external c config).1.Aligned := by
  cases hl : p.lane with
  | none =>
      have hscheduler := hp.lane_eq
      have hawake := hp.awake
      rw [hl] at hscheduler hawake
      exact ⟨by simpa [Pipeline.resume, hl, Scheduler.setPolicy] using hscheduler,
        fun h => by simpa [Pipeline.resume, hl] using hawake (by
          simpa [Pipeline.resume, hl, Scheduler.setPolicy] using h)⟩
  | some lane =>
      exact ⟨by simp [Pipeline.resume, hl, Scheduler.begin],
        fun _ => by simp [Pipeline.resume, hl]⟩

end Aligned

end Pipeline

end SddsReceiver
