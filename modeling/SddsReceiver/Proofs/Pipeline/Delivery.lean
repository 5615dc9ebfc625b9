import SddsReceiver.Proofs.Pipeline.Calls

/-!
# Every kept frame arrives once

The samples that leave a pipeline are those of its kept frames, in the order of the calls and
each in the byte order in force at its call. A frame is kept when it has the width of the
lane and is not withheld. Which lane that is, which byte order, and whether frames are withheld,
is read off the calls alone: off the widths of the frames, the keyword of the outside
description and the settings.

The invariant is that the open batch lies in the pipeline's lane and holds whole frames. A
single call conserves samples between the open batch and the pushes, and a run adds up.
-/
namespace SddsReceiver

namespace Header

/-- The widths that a stream may have, in bits, and the lane of each. -/
def laneWidths : List (UInt8 × Lane) := [(8, .octet), (16, .short), (32, .float)]

/-- The lane of the frame's width, if it is one of those. -/
def lane? (h : Header) : Option Lane := laneWidths.lookup h.bitsPerSample

theorem ofBits_bitsPerSample (h : Header) : Lane.ofBits h.bitsPerSample = h.lane? := by
  simp only [Lane.ofBits, lane?, laneWidths]
  by_cases h8 : h.bitsPerSample = 8
  · rw [h8]
    rfl
  · by_cases h16 : h.bitsPerSample = 16
    · rw [h16]
      rfl
    · by_cases h32 : h.bitsPerSample = 32
      · rw [h32]
        rfl
      · simp [h8, h16, h32, List.lookup_cons, List.lookup_nil, beq_eq_false_iff_ne.mpr]

theorem lane?_eq_some_iff {h : Header} {lane : Lane} :
    h.lane? = some lane ↔ lane.bits = h.bitsPerSample := by
  rw [← ofBits_bitsPerSample]
  constructor
  · exact Lane.bits_of_ofBits
  · intro hbits
    rw [← hbits, Lane.ofBits_bits]

end Header

def Frame.fits (f : Frame) (lane : Option Lane) : Bool :=
  lane.any fun lane => f.header.lane? == some lane

theorem Frame.fits_some_iff {f : Frame} {lane : Lane} :
    f.fits (some lane) = true ↔ lane.bits = f.header.bitsPerSample := by
  rw [fits, Option.any_some, beq_iff_eq, Header.lane?_eq_some_iff]

/-- A frame that fixes no lane fits into none. -/
theorem Frame.fits_or (f : Frame) (before later : Option Lane) :
    f.fits ((before.or f.header.lane?).or later) = f.fits (before.or f.header.lane?) := by
  cases hl : before.or f.header.lane? with
  | some lane => rfl
  | none =>
      have hnone : f.header.lane? = none := (Option.or_eq_none_iff.mp hl).2
      cases later with
      | none => rfl
      | some lane => simp [fits, hnone]

namespace PipelineCall

/-- The lane that a call could fix: that of a frame. -/
def lane? : PipelineCall → Option Lane
  | .frame f => f.header.lane?
  | _ => none

/-- The lane that the first frame of a supported width fixes. -/
def fixedLane (calls : List PipelineCall) : Option Lane := calls.findSome? lane?

end PipelineCall

/-- What decides, beside the lane, whether a frame is kept and how it is read. -/
structure Intake where
  external : Option Sri
  configured : ByteOrder
  policy : PushPolicy

namespace Intake

/-- The push settings of a configuration; a push holds one frame at least. -/
def policyOf (config : Config) : PushPolicy where
  framesPerPush := max config.pushFrames 1
  pushOnEdge := config.pushOnEdge
  withholdInvalid := config.withholdInvalid

def ofConfig (external : Option Sri) (config : Config) : Intake :=
  ⟨external, config.order, policyOf config⟩

/-- Only a new description and a configuration taken up again change it. -/
def after (i : Intake) : PipelineCall → Intake
  | .describe external => { i with external := external }
  | .resume config => { i with configured := config.order, policy := policyOf config }
  | .frame _ | .finish _ => i

/-- The number in the keyword that announces a byte order. A fraction does not count. -/
def announced? (i : Intake) : Option Int :=
  match i.external.bind fun sri => sri.keywords.find? fun k => k.id == "dataRef" with
  | some ⟨_, .long value⟩ => some value.toInt
  | some ⟨_, .double value⟩ => some value.toInt64.toInt
  | _ => none

/-- The byte order in force: the one announced, or else the configured one. -/
def order (i : Intake) : ByteOrder :=
  if i.announced? = some 0x1234 then .little
  else if i.announced? = some 0x4321 then .big
  else i.configured

theorem getD_ofAnnouncement (n : Int) (configured : ByteOrder) :
    (ByteOrder.ofAnnouncement n).getD configured =
      if n = 0x1234 then .little else if n = 0x4321 then .big else configured := by
  unfold ByteOrder.ofAnnouncement
  split_ifs <;> rfl

theorem orderInForce_eq (i : Intake) : Sri.orderInForce i.external i.configured = i.order := by
  cases hexternal : i.external with
  | none => simp [Sri.orderInForce, order, announced?, hexternal]
  | some sri =>
      cases hfound : sri.keywords.find? fun k => k.id == "dataRef" with
      | none =>
          simp [Sri.orderInForce, Sri.announcedOrder, Sri.keyword?, Sri.orderKeyword, order,
            announced?, hexternal, hfound]
      | some keyword =>
          obtain ⟨id, value⟩ := keyword
          cases value <;>
            simp [Sri.orderInForce, Sri.announcedOrder, Sri.keyword?, Sri.orderKeyword, order,
              announced?, hexternal, hfound, getD_ofAnnouncement]

def keeps (i : Intake) (lane : Option Lane) (f : Frame) : Bool :=
  f.fits lane && !(i.policy.withholdInvalid && !f.header.timeValid)

def contribution (i : Intake) (lane : Option Lane) : PipelineCall → List Sample
  | .frame f =>
      if i.keeps lane f then
        lane.toList.flatMap fun lane => Sample.decode lane i.order f.payload
      else []
  | _ => []

theorem contribution_kept {i : Intake} {lane : Lane} {f : Frame}
    (h : i.keeps (some lane) f = true) :
    i.contribution (some lane) (.frame f) = Sample.decode lane i.order f.payload := by
  simp [contribution, h]

theorem contribution_dropped {i : Intake} {lane : Option Lane} {f : Frame}
    (h : i.keeps lane f = false) : i.contribution lane (.frame f) = [] := by
  simp [contribution, h]

def keptSamples (i : Intake) (lane : Option Lane) : List PipelineCall → List Sample
  | [] => []
  | c :: cs => i.contribution lane c ++ (i.after c).keptSamples lane cs

theorem keeps_or (i : Intake) (f : Frame) (before later : Option Lane) :
    i.keeps ((before.or f.header.lane?).or later) f = i.keeps (before.or f.header.lane?) f := by
  rw [keeps, keeps, f.fits_or]

end Intake

def Batch.Whole (lane : Lane) (b : Batch) : Prop :=
  b.samples.lane = lane ∧ b.samples.size = b.frames * lane.samplesPerFrame

theorem Batch.Whole.ofOffer {lane : Lane} {o : Offer} (h : o.payload.length = payloadLength)
    (changed : Bool) : (Batch.ofOffer lane o changed).Whole lane := by
  refine ⟨by simp [Batch.ofOffer], ?_⟩
  simp [Batch.ofOffer, SampleBuffer.size_extend_payload _ _ h]

theorem Batch.Whole.add {lane : Lane} {b : Batch} {o : Offer} (hb : b.Whole lane)
    (h : o.payload.length = payloadLength) (changed : Bool) : (b.add o changed).Whole lane := by
  refine ⟨by simpa [Batch.add] using hb.1, ?_⟩
  simp only [Batch.add, SampleBuffer.size_extend_payload _ _ h, hb.1, hb.2]
  rw [Nat.succ_mul]

structure Push.Whole (lane : Option Lane) (p : Push) : Prop where
  size_eq : p.samples.size = p.frames * p.samples.lane.samplesPerFrame
  data : p.endOfStream = false → lane = some p.samples.lane
  ending : p.endOfStream = true → p.samples = .empty (lane.getD .octet)

theorem Push.Whole.ofBatch {lane : Lane} {b : Batch} (h : b.Whole lane) :
    b.toPush.Whole (some lane) where
  size_eq := by simpa only [Batch.toPush, h.1] using h.2
  data _ := congrArg some h.1.symm
  ending h := by cases h

namespace Pipeline

structure Intact (p : Pipeline) : Prop extends Aligned p where
  batch : ∀ b ∈ p.scheduler.batch, ∃ lane, p.lane = some lane ∧ b.Whole lane

theorem Intact.ofConfig (attachId : String) (config : Config) (year : Int) :
    (Pipeline.ofConfig attachId config year).Intact where
  toAligned := .ofConfig attachId config year
  batch := by simp [Pipeline.ofConfig, Scheduler.ofPolicy]

theorem lane_handle (p : Pipeline) (external : Option Sri) (c : Counters) (f : Frame) :
    (p.handle external c f).1.lane = p.lane.or (Lane.ofBits f.header.bitsPerSample) := by
  cases h : p.laneFor f.header.bitsPerSample with
  | none =>
      rw [handle_rejected _ _ h]
      cases hl : p.lane with
      | none => simpa [laneFor, hl] using h.symm
      | some fixed => simp [hl]
  | some lane =>
      rw [(handle_accepted _ _ h).1]
      rcases lane_of_laneFor h with hl | hl
      · simpa [laneFor, hl] using h.symm
      · simp [hl]

section Accepted
variable {p : Pipeline} {external : Option Sri} {f : Frame} {lane : Lane}

theorem length_payload_offerOf (p : Pipeline) (external : Option Sri) (f : Frame) :
    (p.offerOf external f).payload.length = payloadLength :=
  f.packet.length_payload

theorem Intact.batch_whole (hp : p.Intact) (h : p.laneFor f.header.bitsPerSample = some lane) :
    ∀ b ∈ (p.wakeScheduler lane).batch, b.Whole lane := by
  intro b hb
  rw [wakeScheduler_batch] at hb
  obtain ⟨fixed, hfixed, hwhole⟩ := hp.batch b hb
  rcases lane_of_laneFor h with hl | hl
  · rw [hl] at hfixed
    cases hfixed
  · rw [hl] at hfixed
    cases hfixed
    exact hwhole

theorem Intact.take_whole (hp : p.Intact) (h : p.laneFor f.header.bitsPerSample = some lane) :
    (∀ b ∈ ((p.wakeScheduler lane).take lane (p.offerOf external f)).1.batch, b.Whole lane) ∧
      ∀ q ∈ ((p.wakeScheduler lane).take lane (p.offerOf external f)).2,
        ∃ b : Batch, b.Whole lane ∧ q = b.toPush := by
  have hlength := length_payload_offerOf p external f
  have hopen := hp.batch_whole h
  exact Scheduler.take_batches lane _ hopen (.ofOffer hlength)
    fun b hb => (hopen b hb).add hlength

end Accepted

theorem Intact.handle {p : Pipeline} (hp : p.Intact) (external : Option Sri) (c : Counters)
    (f : Frame) : (p.handle external c f).1.Intact := by
  refine ⟨hp.toAligned.handle external c f, ?_⟩
  cases h : p.laneFor f.header.bitsPerSample with
  | none =>
      rw [handle_rejected _ _ h]
      exact hp.batch
  | some lane =>
      rw [(handle_accepted _ _ h).1, hp.offer_eq_take h]
      exact fun b hb => ⟨lane, rfl, (hp.take_whole h).1 b hb⟩

theorem Intact.finish {p : Pipeline} (hp : p.Intact) (hostClock : Timestamp) :
    (p.finish hostClock).1.Intact :=
  ⟨hp.toAligned.finish hostClock, by simp [Pipeline.finish, Scheduler.finish]⟩

theorem Intact.resume {p : Pipeline} (hp : p.Intact) (external : Option Sri) (c : Counters)
    (config : Config) : (p.resume external c config).1.Intact := by
  refine ⟨hp.toAligned.resume external c config, ?_⟩
  intro b hb
  have hopen : b ∈ p.scheduler.batch := by
    cases hl : p.lane <;>
      simpa [Pipeline.resume, hl, Scheduler.setPolicy, Scheduler.begin] using hb
  exact hp.batch b hopen

end Pipeline

namespace PipelineState

def held (t : PipelineState) : List Sample := t.pipeline.scheduler.held

structure Follows (t : PipelineState) (i : Intake) : Prop where
  external : t.external = i.external
  order : t.pipeline.configuredOrder = i.configured
  policy : t.pipeline.scheduler.policy = i.policy

theorem Follows.ofConfig (attachId : String) (config : Config) (year : Int)
    (external : Option Sri) (counters : Counters) :
    (PipelineState.ofConfig attachId config year external counters).Follows
      (.ofConfig external config) :=
  ⟨rfl, rfl, rfl⟩

section Call
variable {t : PipelineState} {i : Intake}

theorem Follows.call (h : t.Follows i) (ht : t.pipeline.Intact) (c : PipelineCall) :
    (t.call c).1.Follows (i.after c) := by
  cases c with
  | describe external => exact ⟨rfl, h.order, h.policy⟩
  | finish hostClock =>
      refine ⟨h.external, h.order, ?_⟩
      simpa [PipelineState.call, Pipeline.finish, Scheduler.finish, Intake.after] using h.policy
  | resume config =>
      refine ⟨h.external, rfl, ?_⟩
      cases hl : t.pipeline.lane <;>
        simp [PipelineState.call, Pipeline.resume, hl, Scheduler.setPolicy, Scheduler.begin,
          Intake.after, Intake.policyOf, Config.pushPolicy]
  | frame f =>
      cases hl : t.pipeline.laneFor f.header.bitsPerSample with
      | none =>
          simp only [PipelineState.call, Pipeline.handle_rejected _ _ hl]
          exact ⟨h.external, h.order, h.policy⟩
      | some lane =>
          simp only [PipelineState.call, (Pipeline.handle_accepted _ _ hl).1, ht.offer_eq_take hl]
          exact ⟨h.external, h.order, by simpa [Intake.after] using h.policy⟩

theorem call_intact (ht : t.pipeline.Intact) (c : PipelineCall) :
    (t.call c).1.pipeline.Intact := by
  cases c with
  | describe external => exact ht
  | finish hostClock => exact ht.finish hostClock
  | resume config => exact ht.resume t.external t.counters config
  | frame f => exact ht.handle t.external t.counters f

theorem call_lane (t : PipelineState) (c : PipelineCall) :
    (t.call c).1.pipeline.lane = t.pipeline.lane.or c.lane? := by
  cases c with
  | frame f =>
      rw [PipelineCall.lane?, ← f.header.ofBits_bitsPerSample]
      exact Pipeline.lane_handle t.pipeline t.external t.counters f
  | _ => simp [PipelineState.call, Pipeline.finish, Pipeline.resume, PipelineCall.lane?]

theorem fits_rejected {f : Frame} (hl : t.pipeline.laneFor f.header.bitsPerSample = none) :
    f.fits t.pipeline.lane = false := by
  cases hfixed : t.pipeline.lane with
  | none => rfl
  | some fixed =>
      have hbits : fixed.bits ≠ f.header.bitsPerSample := by
        simpa [Pipeline.laneFor, hfixed] using hl
      exact Bool.eq_false_iff.mpr (mt Frame.fits_some_iff.mp hbits)

theorem keeps_rejected {f : Frame} (hl : t.pipeline.laneFor f.header.bitsPerSample = none) :
    i.keeps t.pipeline.lane f = false := by
  rw [Intake.keeps, fits_rejected hl, Bool.false_and]

theorem fits_accepted {f : Frame} {lane : Lane}
    (hl : t.pipeline.laneFor f.header.bitsPerSample = some lane) : f.fits (some lane) = true :=
  Frame.fits_some_iff.mpr (Pipeline.bits_of_laneFor hl)

theorem keeps_accepted (h : t.Follows i) {f : Frame} {lane : Lane}
    (hl : t.pipeline.laneFor f.header.bitsPerSample = some lane) :
    i.keeps (some lane) f = !t.pipeline.scheduler.policy.withholds f.header.timeValid := by
  rw [Intake.keeps, fits_accepted hl, Bool.true_and, PushPolicy.withholds, h.policy]

theorem order_offerOf (h : t.Follows i) (f : Frame) :
    (t.pipeline.offerOf t.external f).order = i.order := by
  rw [← i.orderInForce_eq, ← h.external, ← h.order]
  rfl

theorem contribution_rejected {f : Frame}
    (hl : t.pipeline.laneFor f.header.bitsPerSample = none) :
    i.contribution t.pipeline.lane (.frame f) = [] :=
  Intake.contribution_dropped (keeps_rejected hl)

theorem contribution_accepted (h : t.Follows i) {f : Frame} {lane : Lane}
    (hl : t.pipeline.laneFor f.header.bitsPerSample = some lane) :
    i.contribution (some lane) (.frame f) =
      if t.pipeline.scheduler.policy.withholds f.header.timeValid then []
      else Sample.decode lane (t.pipeline.offerOf t.external f).order f.payload := by
  rw [order_offerOf h, Intake.contribution, keeps_accepted h hl]
  cases t.pipeline.scheduler.policy.withholds f.header.timeValid <;> simp

/-- One call neither loses nor repeats a sample. -/
theorem call_carried (ht : t.pipeline.Intact) (h : t.Follows i) (c : PipelineCall) :
    Push.carried (t.call c).2 ++ (t.call c).1.held =
      t.held ++ i.contribution (t.call c).1.pipeline.lane c := by
  cases c with
  | describe external => simp [PipelineState.call, held, Intake.contribution]
  | resume config =>
      cases hl : t.pipeline.lane <;>
        simp [PipelineState.call, Pipeline.resume, hl, held, Scheduler.held,
          Scheduler.setPolicy, Scheduler.begin, Intake.contribution]
  | finish hostClock =>
      have hflush := Scheduler.flush_carried t.pipeline.scheduler
      have hheld : (t.call (.finish hostClock)).1.held = [] := by
        simp [PipelineState.call, held, Scheduler.held, Pipeline.finish, Scheduler.finish]
      rw [hheld]
      simp only [PipelineState.call, Pipeline.finish, Scheduler.finish_pushes,
        Push.carried_append, hflush]
      simp [Push.carried, Scheduler.endMark, held, Intake.contribution]
  | frame f =>
      cases hl : t.pipeline.laneFor f.header.bitsPerSample with
      | none =>
          simp only [PipelineState.call, Pipeline.handle_rejected _ _ hl, Pipeline.track_lane,
            contribution_rejected hl]
          simp [held]
      | some lane =>
          have hbatch : ∀ b ∈ (t.pipeline.wakeScheduler lane).batch, b.samples.lane = lane :=
            fun b hb => (ht.batch_whole hl b hb).1
          have htake := Scheduler.take_carried (o := t.pipeline.offerOf t.external f) hbatch
          have hheld : (t.pipeline.wakeScheduler lane).held = t.held := by
            simp [held, Scheduler.held]
          rw [hheld, Pipeline.wakeScheduler_policy] at htake
          obtain ⟨hnext, hpushes⟩ := Pipeline.handle_accepted t.external t.counters hl
          simp only [PipelineState.call, hnext, hpushes, ht.offer_eq_take hl,
            contribution_accepted h hl]
          exact htake

/-- Every push of a call holds whole frames of the lane that is fixed then. -/
theorem call_whole (ht : t.pipeline.Intact) (c : PipelineCall) :
    ∀ p ∈ (t.call c).2, p.Whole (t.call c).1.pipeline.lane := by
  intro p hp
  cases c with
  | describe external => cases hp
  | resume config => cases hp
  | finish hostClock =>
      simp only [PipelineState.call, Pipeline.finish, Scheduler.finish_pushes, List.mem_append,
        List.mem_singleton, Scheduler.flush_pushes, List.mem_map, Option.mem_toList] at hp
      rcases hp with ⟨b, hb, rfl⟩ | rfl
      · obtain ⟨lane, hlane, hwhole⟩ := ht.batch b hb
        have hpush := Push.Whole.ofBatch hwhole
        rwa [← hlane] at hpush
      · refine ⟨by simp [Scheduler.endMark], ?_, ?_⟩
        · intro hdata
          cases hdata
        · intro _
          simp [PipelineState.call, Pipeline.finish, Scheduler.endMark, ht.lane_eq]
  | frame f =>
      cases hl : t.pipeline.laneFor f.header.bitsPerSample with
      | none =>
          simp only [PipelineState.call, Pipeline.handle_rejected _ _ hl] at hp
          cases hp
      | some lane =>
          obtain ⟨hnext, hpushes⟩ := Pipeline.handle_accepted t.external t.counters hl
          simp only [PipelineState.call, hpushes, ht.offer_eq_take hl] at hp
          obtain ⟨b, hwhole, rfl⟩ := (ht.take_whole hl).2 p hp
          simpa only [PipelineState.call, hnext] using Push.Whole.ofBatch hwhole

end Call

section Run
variable {t : PipelineState} {i : Intake}

theorem run_intact (ht : t.pipeline.Intact) (calls : List PipelineCall) :
    (t.run calls).1.pipeline.Intact := by
  induction calls generalizing t with
  | nil => exact ht
  | cons c cs ih => exact ih (call_intact ht c)

theorem or_fixedLane_cons (t : PipelineState) (c : PipelineCall) (cs : List PipelineCall) :
    t.pipeline.lane.or (PipelineCall.fixedLane (c :: cs)) =
      (t.call c).1.pipeline.lane.or (PipelineCall.fixedLane cs) := by
  rw [call_lane, Option.or_assoc]
  cases hc : c.lane? <;> simp [PipelineCall.fixedLane, hc]

theorem run_lane (t : PipelineState) (calls : List PipelineCall) :
    (t.run calls).1.pipeline.lane = t.pipeline.lane.or (PipelineCall.fixedLane calls) := by
  induction calls generalizing t with
  | nil => simp [PipelineCall.fixedLane]
  | cons c cs ih => rw [run_cons, ih, or_fixedLane_cons]

theorem contribution_or (i : Intake) (c : PipelineCall) (before later : Option Lane) :
    i.contribution (before.or c.lane?) c = i.contribution ((before.or c.lane?).or later) c := by
  cases c with
  | frame f =>
      rw [PipelineCall.lane?, Intake.contribution, Intake.contribution, i.keeps_or]
      cases hl : before.or f.header.lane? with
      | some lane => rfl
      | none => simp [Intake.keeps, Frame.fits]
  | _ => rfl

theorem run_carried (ht : t.pipeline.Intact) (h : t.Follows i) (calls : List PipelineCall) :
    Push.carried (t.run calls).2 ++ (t.run calls).1.held =
      t.held ++ i.keptSamples (t.pipeline.lane.or (PipelineCall.fixedLane calls)) calls := by
  induction calls generalizing t i with
  | nil => simp [Intake.keptSamples]
  | cons c cs ih =>
      have hlane := t.or_fixedLane_cons c cs
      have hrest := ih (call_intact ht c) (h.call ht c)
      have hstep := call_carried ht h c
      rw [call_lane, contribution_or i c _ (PipelineCall.fixedLane cs), ← call_lane,
        ← hlane] at hstep
      rw [run_cons, Push.carried_append, List.append_assoc, hrest, ← List.append_assoc, hstep,
        ← hlane, Intake.keptSamples, List.append_assoc]

theorem mem_run_pushes {t : PipelineState} {calls : List PipelineCall} {p : Push}
    (hp : p ∈ (t.run calls).2) :
    ∃ before c after, calls = before ++ c :: after ∧ p ∈ ((t.run before).1.call c).2 := by
  induction calls generalizing t with
  | nil => cases hp
  | cons c cs ih =>
      rw [run_cons] at hp
      rcases List.mem_append.mp hp with hp | hp
      · exact ⟨[], c, cs, rfl, hp⟩
      · obtain ⟨before, d, after, rfl, hd⟩ := ih hp
        exact ⟨c :: before, d, after, rfl, hd⟩

theorem run_call_whole (ht : t.pipeline.Intact) (hlane : t.pipeline.lane = none)
    (before : List PipelineCall) (c : PipelineCall) {p : Push}
    (hp : p ∈ ((t.run before).1.call c).2) :
    p.Whole (PipelineCall.fixedLane (before ++ [c])) := by
  have hwhole := call_whole (run_intact ht before) c p hp
  have hnow : ((t.run before).1.call c).1.pipeline.lane =
      PipelineCall.fixedLane (before ++ [c]) := by
    rw [call_lane, run_lane, hlane, Option.none_or, PipelineCall.fixedLane,
      PipelineCall.fixedLane, List.findSome?_append]
    cases hc : c.lane? <;> simp [hc]
  rwa [hnow] at hwhole

end Run

/-- Whatever is called on the pipeline of a new attachment, its pushes and its open batch
carry exactly the samples of the kept frames. Every push holds whole frames, those with data
in the one lane that is ever fixed, and an end mark is empty in the lane fixed by then. -/
theorem run_delivers_kept_frames (attachId : String) (config : Config) (year : Int)
    (external : Option Sri) (counters : Counters) (calls : List PipelineCall) :
    let start := PipelineState.ofConfig attachId config year external counters
    Push.carried (start.run calls).2 ++ (start.run calls).1.held =
        (Intake.ofConfig external config).keptSamples (PipelineCall.fixedLane calls) calls ∧
      (∀ p ∈ (start.run calls).2,
        p.samples.size = p.frames * p.samples.lane.samplesPerFrame ∧
          (p.endOfStream = false → PipelineCall.fixedLane calls = some p.samples.lane)) ∧
      ∀ before c after, calls = before ++ c :: after →
        ∀ p ∈ ((start.run before).1.call c).2, p.endOfStream = true →
          p.samples = .empty ((PipelineCall.fixedLane (before ++ [c])).getD .octet) := by
  intro start
  have hstart : start.pipeline.Intact := .ofConfig attachId config year
  have hfollows : start.Follows (.ofConfig external config) :=
    .ofConfig attachId config year external counters
  refine ⟨?_, ?_, ?_⟩
  · have hrun := run_carried hstart hfollows calls
    simpa [start, ofConfig, held, Scheduler.held, Pipeline.ofConfig, Scheduler.ofPolicy] using hrun
  · intro p hp
    obtain ⟨before, c, after, rfl, hc⟩ := mem_run_pushes hp
    have hwhole := run_call_whole hstart rfl before c hc
    refine ⟨hwhole.size_eq, fun hdata => ?_⟩
    have hlane := hwhole.data hdata
    rw [List.append_cons, PipelineCall.fixedLane, List.findSome?_append]
    rw [PipelineCall.fixedLane] at hlane
    rw [hlane, Option.some_or]
  · rintro before c after - p hp hending
    exact (run_call_whole hstart rfl before c hp).ending hending

/-- Frames of 12, 16 and 8 bits, some without a valid time tag, under an outside description that
announces a byte order and is withdrawn again, with a stop after which no frame is withheld. -/
theorem run_delivers_kept_frames_announced :
    let header : UInt16 → UInt16 → Header := fun format tagInfo =>
      ⟨⟨format⟩, 0, ⟨tagInfo⟩, 0, .zero, 0, 0, Vector.replicate auxiliaryLength 0⟩
    let frame : UInt16 → UInt16 → Frame := fun format tagInfo =>
      ⟨header format tagInfo,
        .compose (header format tagInfo) (List.replicate 512 [1, 2]).flatten, 0⟩
    let announced : Sri := { streamId := "a", keywords := [⟨"dataRef", .long 0x1234⟩] }
    let calls : List PipelineCall :=
      [.frame (frame 12 0x4000), .describe (some announced), .frame (frame 16 0x4000),
        .frame (frame 16 0), .frame (frame 8 0x4000), .describe none, .frame (frame 16 0x4000),
        .finish (.ofHostClock 0.0 0.0), .resume { order := .little }, .frame (frame 16 0)]
    let start := PipelineState.ofConfig "a" { withholdInvalid := true } 2024 none .initial
    Push.carried (start.run calls).2 ++ (start.run calls).1.held =
      List.replicate 512 (.short 0x0201) ++
        (List.replicate 512 (.short 0x0102) ++ List.replicate 512 (.short 0x0201)) := by
  intro header frame announced calls start
  have hpayload : ∀ format tagInfo,
      (frame format tagInfo).payload = (List.replicate 512 [1, 2]).flatten := by
    intro format tagInfo
    have hwhole : ((List.replicate 512 [1, 2]).flatten : List UInt8).length = payloadLength := by
      rw [List.length_flatten, List.map_replicate, List.sum_replicate_nat]
      rfl
    rw [Frame.payload, Packet.payload_compose]
    exact List.take_left' hwhole
  have hdecode : ∀ format tagInfo order,
      Sample.decode .short order (frame format tagInfo).payload =
        List.replicate 512 (Sample.ofWord .short (order.read [1, 2])) := by
    intro format tagInfo order
    rw [hpayload]
    exact Sample.decode_replicate rfl order 512
  have hread : ∀ (i : Intake) tagInfo, i.keeps (some .short) (frame 16 tagInfo) = true →
      i.contribution (some .short) (.frame (frame 16 tagInfo)) =
        List.replicate 512 (Sample.ofWord .short (i.order.read [1, 2])) := by
    intro i tagInfo hkeeps
    rw [Intake.contribution_kept hkeeps, hdecode]
  let plain : Intake := .ofConfig none { withholdInvalid := true }
  let described := plain.after (.describe (some announced))
  let resumed := plain.after (.resume { order := .little })
  have hdropped : plain.contribution (some .short) (.frame (frame 12 0x4000)) = [] ∧
      described.contribution (some .short) (.frame (frame 16 0)) = [] ∧
      described.contribution (some .short) (.frame (frame 8 0x4000)) = [] := by
    refine ⟨?_, ?_, ?_⟩ <;> exact Intake.contribution_dropped (by decide +kernel)
  have hkept : plain.keptSamples (some .short) calls =
      described.contribution (some .short) (.frame (frame 16 0x4000)) ++
        (plain.contribution (some .short) (.frame (frame 16 0x4000)) ++
          resumed.contribution (some .short) (.frame (frame 16 0))) := by
    calc plain.keptSamples (some .short) calls
        = plain.contribution (some .short) (.frame (frame 12 0x4000)) ++
            (described.contribution (some .short) (.frame (frame 16 0x4000)) ++
              (described.contribution (some .short) (.frame (frame 16 0)) ++
                (described.contribution (some .short) (.frame (frame 8 0x4000)) ++
                  (plain.contribution (some .short) (.frame (frame 16 0x4000)) ++
                    (resumed.contribution (some .short) (.frame (frame 16 0)) ++ []))))) := rfl
      _ = _ := by simp only [hdropped, List.nil_append, List.append_nil]
  have hlane : PipelineCall.fixedLane calls = some .short := by decide +kernel
  have horders : described.order = .little ∧ plain.order = .big ∧ resumed.order = .little := by
    decide +kernel
  obtain ⟨hcarried, -⟩ :=
    run_delivers_kept_frames "a" { withholdInvalid := true } 2024 none .initial calls
  rw [hcarried, hlane, hkept, hread described _ (by decide +kernel),
    hread plain _ (by decide +kernel), hread resumed _ (by decide +kernel), horders.1,
    horders.2.1, horders.2.2]
  rfl

end PipelineState

end SddsReceiver
