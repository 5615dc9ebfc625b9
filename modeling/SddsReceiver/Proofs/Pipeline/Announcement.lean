import Mathlib.Data.List.Forall2
import SddsReceiver.Proofs.Pipeline.Delivery
import SddsReceiver.Proofs.Pipeline.Stream
import SddsReceiver.Proofs.Push.Announcement

/-!
# No description goes unannounced

Which frames are kept, and what the outside description and the packet say together about
each, is read off the calls alone. The pushes join these frames, each under one description.
An unmarked push follows one with the same description, with no end of the stream in between.

Three parts of the pipeline remember a description: the merger the one told last, the open
batch its own, and the scheduler that of the last push. The merger's is the scheduler's
current one after every call, although an end makes all three forget.
-/
namespace SddsReceiver

/-- Where two descriptions are equal, the one given out first stands for both. -/
def Sri.StandsFor (given told : Sri) : Prop := given = told ∨ (given == told) = true

namespace SriMerger
variable (m : SriMerger) (external : Option Sri) (h : Header)

/-- Either an equal result was told before and stands again, or a new one is reported. -/
theorem merge_cases :
    (∃ last, m.last = some last ∧ (last == Sri.merged external h m.defaultId) = true ∧
        m.merge external h = (m, last, false)) ∨
      m.merge external h = (⟨m.defaultId, some (Sri.merged external h m.defaultId)⟩,
        Sri.merged external h m.defaultId, true) := by
  cases hlast : m.last with
  | none => exact .inr (by simp only [merge, hlast])
  | some last =>
      cases heq : last == Sri.merged external h m.defaultId with
      | true => exact .inl ⟨last, rfl, heq, by simp only [merge, hlast, heq, if_true]⟩
      | false =>
          exact .inr (by simp only [merge, hlast, heq, Bool.false_eq_true, if_false])

theorem merge_last : (m.merge external h).1.last = some (m.merge external h).2.1 := by
  rcases m.merge_cases external h with ⟨last, hlast, -, hmerge⟩ | hmerge
  · rw [hmerge, hlast]
  · rw [hmerge]

@[simp] theorem merge_defaultId : (m.merge external h).1.defaultId = m.defaultId := by
  rcases m.merge_cases external h with ⟨last, -, -, hmerge⟩ | hmerge <;> rw [hmerge]

theorem merge_unchanged (hsame : (m.merge external h).2.2 = false) :
    m.last = some (m.merge external h).2.1 := by
  rcases m.merge_cases external h with ⟨last, hlast, -, hmerge⟩ | hmerge
  · rw [hmerge, hlast]
  · rw [hmerge] at hsame
    cases hsame

theorem merge_standsFor :
    (m.merge external h).2.1.StandsFor (Sri.merged external h m.defaultId) := by
  rcases m.merge_cases external h with ⟨last, -, heq, hmerge⟩ | hmerge
  · rw [hmerge]
    exact .inr heq
  · rw [hmerge]
    exact .inl rfl

end SriMerger

structure KeptFrame where
  frame : Frame
  external : Option Sri
  order : ByteOrder
  time : Timestamp

/-- Every frame of the lane moves the year on, also one that is withheld. -/
def YearEpoch.after (year : YearEpoch) (lane : Option Lane) : PipelineCall → YearEpoch
  | .frame f => if f.fits lane then year.advance f.header.time f.header.timeValid else year
  | _ => year

theorem YearEpoch.after_or (year : YearEpoch) (c : PipelineCall) (before later : Option Lane) :
    year.after ((before.or c.lane?).or later) c = year.after (before.or c.lane?) c := by
  cases c with
  | frame f => rw [PipelineCall.lane?, YearEpoch.after, YearEpoch.after, f.fits_or]
  | _ => rfl

namespace Intake

def keptOf (i : Intake) (lane : Option Lane) (year : YearEpoch) : PipelineCall → List KeptFrame
  | .frame f =>
      if i.keeps lane f then
        [{ frame := f
           external := i.external
           order := i.order
           time := (year.timestamp f.header.time f.header.timeValid).2 }]
      else []
  | _ => []

def keptFrames (i : Intake) (lane : Option Lane) (year : YearEpoch) :
    List PipelineCall → List KeptFrame
  | [] => []
  | c :: cs => i.keptOf lane year c ++ (i.after c).keptFrames lane (year.after lane c) cs

theorem keptOf_or (i : Intake) (year : YearEpoch) (c : PipelineCall)
    (before later : Option Lane) :
    i.keptOf ((before.or c.lane?).or later) year c = i.keptOf (before.or c.lane?) year c := by
  cases c with
  | frame f => rw [PipelineCall.lane?, keptOf, keptOf, i.keeps_or]
  | _ => rfl

end Intake

/-- What reaches the scheduler of a kept frame: its payload in the byte order in force and at
its time, under what is told of it. -/
structure KeptFrame.Offered (attachId : String) (k : KeptFrame) (o : Offer) : Prop where
  payload_eq : o.payload = k.frame.payload
  order_eq : o.order = k.order
  time_eq : o.timestamp = k.time
  sri : o.sri.StandsFor (Sri.merged k.external k.frame.header attachId)

namespace Pipeline

structure Informed (attachId : String) (p : Pipeline) : Prop extends Intact p where
  named : p.merger.defaultId = attachId
  current : p.scheduler.Current p.merger.last

section Informed
variable {p : Pipeline} {attachId : String}

theorem Informed.ofConfig (attachId : String) (config : Config) (year : Int) :
    (Pipeline.ofConfig attachId config year).Informed attachId where
  toIntact := .ofConfig attachId config year
  named := rfl
  current := by
    refine ⟨?_, fun _ _ => rfl⟩
    intro b hb
    cases hb

theorem Informed.wake (hp : p.Informed attachId) (lane : Lane) :
    (p.wakeScheduler lane).Current p.merger.last ∧
      (p.wakeScheduler lane).lastSri = p.scheduler.lastSri := by
  obtain ⟨held, hwake⟩ := p.wakeScheduler_eq lane
  rw [hwake]
  exact ⟨⟨hp.current.opened, hp.current.closed⟩, rfl⟩

theorem offerOf_unchanged (p : Pipeline) (external : Option Sri) (f : Frame)
    (h : (p.offerOf external f).sriChanged = false) :
    p.merger.last = some (p.offerOf external f).sri :=
  p.merger.merge_unchanged external f.header h

theorem Informed.handle (hp : p.Informed attachId) (external : Option Sri) (c : Counters)
    (f : Frame) :
    (p.handle external c f).1.Informed attachId ∧
      Push.Announces p.scheduler.lastSri (p.handle external c f).2.2
        (p.handle external c f).1.scheduler.lastSri := by
  have hintact := hp.toIntact.handle external c f
  cases h : p.laneFor f.header.bitsPerSample with
  | none =>
      rw [handle_rejected _ _ h] at hintact ⊢
      exact ⟨⟨hintact, hp.named, hp.current⟩, .nil _⟩
  | some lane =>
      obtain ⟨hnext, hpushes⟩ := handle_accepted external c h
      obtain ⟨hawake, hlast⟩ := hp.wake lane
      obtain ⟨hcurrent, hannounced⟩ := hawake.take lane (p.offerOf_unchanged external f)
      rw [hlast] at hannounced
      rw [hpushes, hnext, hp.offer_eq_take h]
      rw [hnext, hp.offer_eq_take h] at hintact
      refine ⟨⟨hintact, ?_, ?_⟩, hannounced⟩
      · exact (p.merger.merge_defaultId external f.header).trans hp.named
      · rw [p.merger.merge_last external f.header]
        exact hcurrent

theorem Informed.finish (hp : p.Informed attachId) (hostClock : Timestamp) :
    (p.finish hostClock).1.Informed attachId ∧
      Push.Announces p.scheduler.lastSri (p.finish hostClock).2
        (p.finish hostClock).1.scheduler.lastSri := by
  refine ⟨⟨hp.toIntact.finish hostClock, hp.named, ?_⟩, ?_⟩
  · refine ⟨?_, fun _ _ => rfl⟩
    simp [Pipeline.finish, Scheduler.finish]
  · have hending : Push.Announces p.scheduler.flush.1.lastSri
        [p.scheduler.endMark p.merger.current hostClock] none :=
      .cons (fun hdata => by cases hdata) (.nil _)
    simp only [Pipeline.finish, Scheduler.finish_pushes]
    exact hp.current.flush.2.append hending

theorem Informed.resume (hp : p.Informed attachId) (external : Option Sri) (c : Counters)
    (config : Config) :
    (p.resume external c config).1.Informed attachId ∧
      (p.resume external c config).1.scheduler.lastSri = p.scheduler.lastSri := by
  obtain ⟨held, state, hscheduler⟩ := p.resume_scheduler external c config
  refine ⟨⟨hp.toIntact.resume external c config, hp.named, ?_⟩, ?_⟩
  · rw [hscheduler]
    exact ⟨hp.current.opened, hp.current.closed⟩
  · rw [hscheduler]

end Informed

end Pipeline

namespace PipelineState

section Call
variable {t : PipelineState} {i : Intake} {attachId : String}

theorem call_informed (ht : t.pipeline.Informed attachId) (c : PipelineCall) :
    (t.call c).1.pipeline.Informed attachId ∧
      Push.Announces t.pipeline.scheduler.lastSri (t.call c).2
        (t.call c).1.pipeline.scheduler.lastSri := by
  cases c with
  | describe external => exact ⟨ht, .nil _⟩
  | finish hostClock => exact ht.finish hostClock
  | frame f => exact ht.handle t.external t.counters f
  | resume config =>
      obtain ⟨hnext, hlast⟩ := ht.resume t.external t.counters config
      refine ⟨hnext, ?_⟩
      simp only [call, hlast]
      exact .nil _

theorem call_epoch (t : PipelineState) (c : PipelineCall) :
    (t.call c).1.pipeline.epoch = t.pipeline.epoch.after (t.call c).1.pipeline.lane c := by
  cases c with
  | frame f =>
      cases hl : t.pipeline.laneFor f.header.bitsPerSample with
      | none =>
          simp only [call, Pipeline.handle_rejected _ _ hl, Pipeline.track_lane,
            YearEpoch.after, fits_rejected hl]
          rfl
      | some lane =>
          simp only [call, (Pipeline.handle_accepted _ _ hl).1, YearEpoch.after,
            fits_accepted hl]
          rfl
  | _ => rfl

theorem keptOf_accepted (ht : t.pipeline.Informed attachId) (h : t.Follows i) {f : Frame}
    {lane : Lane} (hl : t.pipeline.laneFor f.header.bitsPerSample = some lane) :
    List.Forall₂ (KeptFrame.Offered attachId)
      (i.keptOf (some lane) t.pipeline.epoch (.frame f))
      (if t.pipeline.scheduler.policy.withholds f.header.timeValid then []
        else [t.pipeline.offerOf t.external f]) := by
  rw [Intake.keptOf, keeps_accepted h hl]
  cases t.pipeline.scheduler.policy.withholds f.header.timeValid with
  | true => exact .nil
  | false =>
      refine .cons ⟨rfl, order_offerOf h f, rfl, ?_⟩ .nil
      · rw [← ht.named, ← h.external]
        exact t.pipeline.merger.merge_standsFor t.external f.header

/-- Kept frames leave by a push or wait in the open batch. -/
theorem call_delivers (ht : t.pipeline.Informed attachId) (h : t.Follows i) {waiting : List Offer}
    (hwaiting : t.pipeline.scheduler.Gathers waiting) (c : PipelineCall) :
    ∃ offers out rest,
      List.Forall₂ (KeptFrame.Offered attachId)
          (i.keptOf (t.call c).1.pipeline.lane t.pipeline.epoch c) offers ∧
        waiting ++ offers = out ++ rest ∧ Push.Deliver (t.call c).2 out ∧
          (t.call c).1.pipeline.scheduler.Gathers rest := by
  cases c with
  | describe external => exact ⟨[], [], waiting, .nil, List.append_nil _, .nil, hwaiting⟩
  | resume config =>
      refine ⟨[], [], waiting, .nil, List.append_nil _, .nil, ?_⟩
      obtain ⟨held, state, hscheduler⟩ :=
        t.pipeline.resume_scheduler t.external t.counters config
      simp only [call, hscheduler]
      exact hwaiting
  | finish hostClock =>
      refine ⟨[], waiting, [], .nil, rfl, ?_, .of_none ?_⟩
      · simp only [call, Pipeline.finish, Scheduler.finish_pushes]
        have hends := hwaiting.flush.append (Push.Deliver.ending
          (p := t.pipeline.scheduler.endMark t.pipeline.merger.current hostClock) rfl .nil)
        rwa [List.append_nil] at hends
      · simp [call, Pipeline.finish, Scheduler.finish]
  | frame f =>
      cases hl : t.pipeline.laneFor f.header.bitsPerSample with
      | none =>
          simp only [call, Pipeline.handle_rejected _ _ hl, Pipeline.track_lane,
            Pipeline.track_scheduler, Intake.keptOf, keeps_rejected hl]
          exact ⟨[], [], waiting, .nil, List.append_nil _, .nil, hwaiting⟩
      | some lane =>
          obtain ⟨hnext, hpushes⟩ := Pipeline.handle_accepted t.external t.counters hl
          have hawake : (t.pipeline.wakeScheduler lane).Gathers waiting := by
            rw [Scheduler.Gathers, Pipeline.wakeScheduler_batch]
            exact hwaiting
          obtain ⟨out, rest, hsplit, hout, hrest⟩ := hawake.take (ht.wake lane).1 lane
            (t.pipeline.offerOf_unchanged t.external f)
          rw [Pipeline.wakeScheduler_policy] at hsplit
          simp only [call, hnext, hpushes, ht.offer_eq_take hl]
          exact ⟨_, out, rest, keptOf_accepted ht h hl, hsplit, hout, hrest⟩

end Call

section Run
variable {t : PipelineState} {i : Intake} {attachId : String}

theorem run_informed (ht : t.pipeline.Informed attachId) (calls : List PipelineCall) :
    (t.run calls).1.pipeline.Informed attachId ∧
      Push.Announces t.pipeline.scheduler.lastSri (t.run calls).2
        (t.run calls).1.pipeline.scheduler.lastSri := by
  induction calls generalizing t with
  | nil => exact ⟨ht, .nil _⟩
  | cons c cs ih =>
      obtain ⟨hnext, hnow⟩ := call_informed ht c
      obtain ⟨hlast, hlater⟩ := ih hnext
      exact ⟨hlast, hnow.append hlater⟩

theorem run_delivers (ht : t.pipeline.Informed attachId) (h : t.Follows i) {waiting : List Offer}
    (hwaiting : t.pipeline.scheduler.Gathers waiting) (calls : List PipelineCall) :
    ∃ offers out rest,
      List.Forall₂ (KeptFrame.Offered attachId)
          (i.keptFrames (t.pipeline.lane.or (PipelineCall.fixedLane calls)) t.pipeline.epoch
            calls) offers ∧
        waiting ++ offers = out ++ rest ∧ Push.Deliver (t.run calls).2 out ∧
          (t.run calls).1.pipeline.scheduler.Gathers rest := by
  induction calls generalizing t i waiting with
  | nil => exact ⟨[], [], waiting, .nil, List.append_nil _, .nil, hwaiting⟩
  | cons c cs ih =>
      have hlane := t.or_fixedLane_cons c cs
      obtain ⟨offers, out, rest, hoffers, hsplit, hout, hrest⟩ := call_delivers ht h hwaiting c
      obtain ⟨more, outLater, last, hmore, hsplitLater, houtLater, hlast⟩ :=
        ih (call_informed ht c).1 (h.call ht.toIntact c) hrest
      have hyear : (t.call c).1.pipeline.epoch = t.pipeline.epoch.after
          (t.pipeline.lane.or (PipelineCall.fixedLane (c :: cs))) c := by
        rw [hlane, call_epoch, call_lane, YearEpoch.after_or]
      rw [call_lane, ← Intake.keptOf_or i _ c _ (PipelineCall.fixedLane cs), ← call_lane,
        ← hlane] at hoffers
      rw [← hlane, hyear] at hmore
      refine ⟨offers ++ more, out ++ outLater, last, ?_, ?_, hout.append houtLater, hlast⟩
      · rw [Intake.keptFrames]
        exact List.rel_append hoffers hmore
      · rw [← List.append_assoc, hsplit, List.append_assoc, hsplitLater, List.append_assoc]

theorem call_endOfStream (t : PipelineState) (c : PipelineCall) :
    ∃ data ending, (t.call c).2 = data ++ ending ∧ (∀ p ∈ data, p.endOfStream = false) ∧
      ending.map Push.endOfStream = match c with
        | .finish _ => [true]
        | _ => [] := by
  cases c with
  | describe external => exact ⟨[], [], rfl, by simp, rfl⟩
  | resume config => exact ⟨[], [], rfl, by simp, rfl⟩
  | finish hostClock =>
      exact ⟨_, [_], t.pipeline.scheduler.finish_pushes t.pipeline.merger.current hostClock,
        t.pipeline.scheduler.flush_endOfStream, rfl⟩
  | frame f =>
      exact ⟨_, [], (List.append_nil _).symm,
        t.pipeline.handle_endOfStream t.external t.counters f, rfl⟩

end Run

/-- Whatever is called on the pipeline of a new attachment, its pushes and its open batch join
the kept frames one after another, each batch under one description: that of the push, which
stands for what is told of every frame in it. An unmarked push with data comes right after
another push with the same description, with no end mark between them; and ends are marked
where the stream ends, and only there. -/
theorem run_announces_descriptions (attachId : String) (config : Config) (year : Int)
    (external : Option Sri) (counters : Counters) (calls : List PipelineCall) :
    let start := PipelineState.ofConfig attachId config year external counters
    (∃ out rest,
        List.Forall₂ (KeptFrame.Offered attachId)
            ((Intake.ofConfig external config).keptFrames (PipelineCall.fixedLane calls)
              (.ofYear year) calls) (out ++ rest) ∧
          Push.Deliver (start.run calls).2 out ∧
          (start.run calls).1.pipeline.scheduler.Gathers rest) ∧
      (∀ earlier p later, (start.run calls).2 = earlier ++ p :: later →
        p.endOfStream = false → p.sriChanged = false →
          ∃ q ∈ earlier.getLast?, q.endOfStream = false ∧ q.sri = p.sri) ∧
      ∀ before c after, calls = before ++ c :: after →
        ∃ data ending, ((start.run before).1.call c).2 = data ++ ending ∧
          (∀ p ∈ data, p.endOfStream = false) ∧
          ending.map Push.endOfStream = match c with
            | .finish _ => [true]
            | _ => [] := by
  intro start
  have hstart : start.pipeline.Informed attachId := .ofConfig attachId config year
  have hfollows : start.Follows (.ofConfig external config) :=
    .ofConfig attachId config year external counters
  refine ⟨?_, ?_, ?_⟩
  · obtain ⟨offers, out, rest, hoffers, hsplit, hout, hrest⟩ :=
      run_delivers hstart hfollows (.of_none rfl) calls
    rw [List.nil_append] at hsplit
    rw [hsplit] at hoffers
    exact ⟨out, rest, hoffers, hout, hrest⟩
  · intro earlier p later hpushes hdata hmark
    have hannounced := (run_informed hstart calls).2
    rw [hpushes] at hannounced
    -- Before the first push no description is held, so the first with data is marked.
    rcases hannounced.unmarked hdata hmark with ⟨-, hheld⟩ | hbefore
    · cases hheld
    · exact hbefore
  · intro before c after _
    exact call_endOfStream _ c

end PipelineState

end SddsReceiver
