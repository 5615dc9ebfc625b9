import SddsReceiver.Proofs.Pipeline.Announcement

/-!
# The name on an end mark

An end mark closes the stream for a consumer, who finds the stream by its name. The scheduler
takes the name from the push right before the mark. Where that push is itself an end mark, or
there is none, the merger supplies the name under which it last described a frame; but an end
makes the merger forget, and then only the name of the attachment is left.

So the mark names the stream of the data pushed last, unless the stream had ended already and
no frame of the lane has come since.
-/
namespace SddsReceiver

theorem Sri.StandsFor.streamId {given told : Sri} (h : given.StandsFor told) :
    given.streamId = told.streamId := by
  rcases h with rfl | heq
  · rfl
  · simp only [BEq.beq, instBEqSri.beq, Bool.and_eq_true] at heq
    exact of_decide_eq_true heq.1

theorem Sri.merged_streamId (external : Option Sri) (h : Header) (defaultId : String) :
    (Sri.merged external h defaultId).streamId =
      (external.map Sri.streamId).getD defaultId := by
  cases external <;> simp only [merged, withPacket] <;> split <;> rfl

theorem SriMerger.current_streamId (m : SriMerger) :
    m.current.streamId = (m.last.map Sri.streamId).getD m.defaultId := by
  cases h : m.last <;> simp [current, h, Sri.ofStream]

namespace Push

/-- The name of the stream in the push with data that came last, however long ago. -/
def lastName (pushes : List Push) : Option String :=
  ((pushes.filter fun p => !p.endOfStream).getLast?).map fun p => p.sri.streamId

theorem Announces.last_eq {held last : Option Sri} {pushes : List Push}
    (h : Announces held pushes last) : last = (pushes.getLast?.map leaves).getD held := by
  induction h with
  | nil held => rfl
  | @cons held last p ps marked rest ih =>
      rw [ih, List.getLast?_cons]
      cases ps.getLast? <;> rfl

theorem lastName_of_last {pushes : List Push} {p : Push} (hlast : p ∈ pushes.getLast?)
    (hdata : p.endOfStream = false) :
    lastName pushes = some p.sri.streamId ∧ pushes.getLast?.bind leaves = some p.sri := by
  obtain ⟨before, rfl⟩ := List.getLast?_eq_some_iff.mp hlast
  constructor
  · simp [lastName, hdata]
  · simp [leaves, hdata]

end Push

namespace Intake
variable (i : Intake) (attachId : String) (lane : Option Lane)

def nameAfter (name : Option String) : PipelineCall → Option String
  | .frame f => if f.fits lane then some ((i.external.map Sri.streamId).getD attachId) else name
  | .finish _ => none
  | .describe _ | .resume _ => name

/-- The name under which a frame of the lane was last described since the stream last ended. -/
def lastName (i : Intake) (name : Option String) : List PipelineCall → Option String
  | [] => name
  | c :: cs => (i.after c).lastName (i.nameAfter attachId lane name c) cs

theorem nameAfter_or (name : Option String) (c : PipelineCall) (before later : Option Lane) :
    i.nameAfter attachId ((before.or c.lane?).or later) name c =
      i.nameAfter attachId (before.or c.lane?) name c := by
  cases c with
  | frame f =>
      have hfits : f.fits ((before.or (PipelineCall.frame f).lane?).or later) =
          f.fits (before.or (PipelineCall.frame f).lane?) := f.fits_or before later
      simp only [nameAfter, hfits]
  | _ => rfl

/-- The name of the frame that was described last, or else that of the attachment. -/
def describedName (calls : List PipelineCall) : String :=
  (i.lastName attachId (PipelineCall.fixedLane calls) none calls).getD attachId

end Intake

def PipelineCall.unended (calls : List PipelineCall) : List PipelineCall :=
  calls.filter fun c => match c with
    | .finish _ => false
    | _ => true

namespace PipelineState

section Call
variable {t : PipelineState} {i : Intake} {attachId : String}

theorem call_name (ht : t.pipeline.Informed attachId) (h : t.Follows i) (c : PipelineCall) :
    (t.call c).1.pipeline.merger.last.map Sri.streamId =
      i.nameAfter attachId (t.call c).1.pipeline.lane
        (t.pipeline.merger.last.map Sri.streamId) c := by
  cases c with
  | describe external => rfl
  | finish hostClock => rfl
  | resume config => rfl
  | frame f =>
      cases hl : t.pipeline.laneFor f.header.bitsPerSample with
      | none =>
          simp only [call, Pipeline.handle_rejected _ _ hl, Pipeline.track_lane,
            Intake.nameAfter, fits_rejected hl]
          rfl
      | some lane =>
          have hname := (t.pipeline.merger.merge_standsFor t.external f.header).streamId
          rw [Sri.merged_streamId, ht.named] at hname
          simp only [call, (Pipeline.handle_accepted _ _ hl).1, Intake.nameAfter,
            fits_accepted hl, if_true, t.pipeline.merger.merge_last, Option.map_some,
            ← h.external, hname]

theorem call_ending {c : PipelineCall} {earlier later : List Push} {ending : Push}
    (hpushes : (t.call c).2 = earlier ++ ending :: later) (hend : ending.endOfStream = true) :
    ∃ hostClock, c = .finish hostClock ∧ earlier = t.pipeline.scheduler.flush.2 ∧
      ending = t.pipeline.scheduler.endMark t.pipeline.merger.current hostClock := by
  have hmem : ending ∈ (t.call c).2 := by simp [hpushes]
  cases c with
  | describe external => cases hmem
  | resume config => cases hmem
  | frame f =>
      rw [t.pipeline.handle_endOfStream t.external t.counters f ending hmem] at hend
      cases hend
  | finish hostClock =>
      refine ⟨hostClock, rfl, ?_⟩
      have hsplit : t.pipeline.scheduler.flush.2 ++
          [t.pipeline.scheduler.endMark t.pipeline.merger.current hostClock] =
            earlier ++ ending :: later :=
        (t.pipeline.scheduler.finish_pushes _ hostClock).symm.trans hpushes
      rcases List.append_eq_append_iff.mp hsplit with
        ⟨between, rfl, hrest⟩ | ⟨between, hopen, hrest⟩
      · -- The mark is the one push behind what was open.
        rcases List.cons_eq_append_iff.mp hrest with ⟨rfl, hmark⟩ | ⟨more, rfl, hmore⟩
        · exact ⟨List.append_nil _, (List.cons.inj hmark).1⟩
        · simp at hmore
      · rcases List.cons_eq_append_iff.mp hrest with ⟨rfl, hmark⟩ | ⟨more, rfl, -⟩
        · rw [List.append_nil] at hopen
          exact ⟨hopen.symm, (List.cons.inj hmark).1.symm⟩
        · have hmore : ending ∈ t.pipeline.scheduler.flush.2 := by rw [hopen]; simp
          rw [t.pipeline.scheduler.flush_endOfStream ending hmore] at hend
          cases hend

end Call

section Run
variable {t : PipelineState} {i : Intake} {attachId : String}

theorem run_name (ht : t.pipeline.Informed attachId) (h : t.Follows i)
    (calls : List PipelineCall) :
    (t.run calls).1.pipeline.merger.last.map Sri.streamId =
      i.lastName attachId (t.pipeline.lane.or (PipelineCall.fixedLane calls))
        (t.pipeline.merger.last.map Sri.streamId) calls := by
  induction calls generalizing t i with
  | nil => rfl
  | cons c cs ih =>
      have hlane := t.or_fixedLane_cons c cs
      have hnow := call_name ht h c
      rw [call_lane, ← i.nameAfter_or attachId _ c _ (PipelineCall.fixedLane cs), ← call_lane,
        ← hlane] at hnow
      have hlater := ih (call_informed ht c).1 (h.call ht.toIntact c)
      rw [← hlane, hnow] at hlater
      exact hlater

/-- An end mark among the pushes of a run is that of one of its finishes. -/
theorem run_ending {calls : List PipelineCall} {earlier later : List Push} {ending : Push}
    (hpushes : (t.run calls).2 = earlier ++ ending :: later) (hend : ending.endOfStream = true) :
    ∃ before hostClock after, calls = before ++ .finish hostClock :: after ∧
      earlier = (t.run before).2 ++ (t.run before).1.pipeline.scheduler.flush.2 ∧
      ending = (t.run before).1.pipeline.scheduler.endMark
        (t.run before).1.pipeline.merger.current hostClock := by
  induction calls generalizing t earlier with
  | nil => simp at hpushes
  | cons c cs ih =>
      rw [run_cons] at hpushes
      rcases List.append_eq_append_iff.mp hpushes with
        ⟨between, rfl, hrest⟩ | ⟨between, hcall, hrest⟩
      · obtain ⟨before, hostClock, after, rfl, rfl, hmark⟩ := ih hrest
        refine ⟨c :: before, hostClock, after, rfl, ?_, hmark⟩
        rw [run_cons, List.append_assoc]
      · rcases List.cons_eq_append_iff.mp hrest with ⟨rfl, hlater⟩ | ⟨more, rfl, -⟩
        · obtain ⟨before, hostClock, after, rfl, hnone, hmark⟩ :=
            @ih (t.call c).1 [] hlater
          refine ⟨c :: before, hostClock, after, rfl, ?_, hmark⟩
          rw [List.append_nil] at hcall
          rw [run_cons, List.append_assoc, ← hnone, List.append_nil, hcall]
        · obtain ⟨hostClock, rfl, rfl, hmark⟩ := call_ending hcall hend
          exact ⟨[], hostClock, cs, rfl, rfl, hmark⟩

theorem run_unended {calls : List PipelineCall} (h : PipelineCall.unended calls = calls) :
    ∀ p ∈ (t.run calls).2, p.endOfStream = false := by
  intro p hp
  cases hend : p.endOfStream with
  | false => rfl
  | true =>
      obtain ⟨earlier, later, hpushes⟩ := List.append_of_mem hp
      obtain ⟨before, hostClock, after, rfl, -, -⟩ := run_ending hpushes hend
      have hmem : PipelineCall.finish hostClock ∈
          PipelineCall.unended (before ++ .finish hostClock :: after) := by
        rw [h]
        exact List.mem_append_right _ List.mem_cons_self
      cases (List.mem_filter.mp hmem).2

end Run

section New
variable (attachId : String) (config : Config) (year : Int) (external : Option Sri)
  (counters : Counters)

theorem run_currentName (calls : List PipelineCall) :
    ((ofConfig attachId config year external counters).run calls).1.pipeline.merger.current.streamId
      = (Intake.ofConfig external config).describedName attachId calls := by
  have hstart : (ofConfig attachId config year external counters).pipeline.Informed attachId :=
    .ofConfig attachId config year
  have hname := run_name hstart (.ofConfig attachId config year external counters) calls
  have hdefault := (run_informed hstart calls).1.named
  rw [SriMerger.current_streamId, hname, hdefault]
  rfl

theorem run_heldAtEnd (calls : List PipelineCall) :
    let s := (ofConfig attachId config year external counters).run calls
    s.1.pipeline.scheduler.flush.1.lastSri =
      (s.2 ++ s.1.pipeline.scheduler.flush.2).getLast?.bind Push.leaves := by
  intro s
  obtain ⟨hinformed, hannounced⟩ :=
    run_informed (t := ofConfig attachId config year external counters)
      (.ofConfig attachId config year) calls
  rw [(hannounced.append hinformed.current.flush.2).last_eq]
  cases (s.2 ++ s.1.pipeline.scheduler.flush.2).getLast? <;> rfl

/-- Every end mark that a pipeline pushes is that of a finish, behind what was open. It names
the stream as the push right before it does, if that is a push with data; or else as the frame
described last since the stream last ended, if there is one; or else by the attachment's name.

The name is that of the data pushed last or, without any, that of the frame described last,
unless a finish came before and no data since. -/
theorem run_names_endings (calls : List PipelineCall) :
    let start := ofConfig attachId config year external counters
    let i := Intake.ofConfig external config
    ∀ earlier ending later, (start.run calls).2 = earlier ++ ending :: later →
      ending.endOfStream = true →
        ∃ before hostClock after, calls = before ++ .finish hostClock :: after ∧
          earlier = (start.run before).2 ++ (start.run before).1.pipeline.scheduler.flush.2 ∧
          ending.sri.streamId =
            ((earlier.getLast?.bind Push.leaves).map Sri.streamId).getD
              (i.describedName attachId before) ∧
          (PipelineCall.unended before = before ∨
              (∃ p ∈ earlier.getLast?, p.endOfStream = false) →
            ending.sri.streamId = (Push.lastName earlier).getD
              (i.describedName attachId (PipelineCall.unended before))) := by
  intro start i earlier ending later hpushes hend
  obtain ⟨before, hostClock, after, hcalls, hearlier, hmark⟩ := run_ending hpushes hend
  have hheld := run_heldAtEnd attachId config year external counters before
  have hname := run_currentName attachId config year external counters before
  have hending : ending.sri.streamId =
      ((earlier.getLast?.bind Push.leaves).map Sri.streamId).getD
        (i.describedName attachId before) := by
    rw [hmark, Scheduler.endMark, hheld, ← hearlier, ← hname]
    cases earlier.getLast?.bind Push.leaves <;> rfl
  have hbehind : ∀ p ∈ earlier.getLast?, p.endOfStream = false →
      ending.sri.streamId = (Push.lastName earlier).getD
        (i.describedName attachId (PipelineCall.unended before)) := by
    intro p hlast hdata
    obtain ⟨hlastName, hleaves⟩ := Push.lastName_of_last hlast hdata
    rw [hending, hlastName, hleaves]
    rfl
  refine ⟨before, hostClock, after, hcalls, hearlier, hending, ?_⟩
  rintro (hunended | ⟨p, hlast, hdata⟩)
  · cases hlast : earlier.getLast? with
    | none =>
        rw [List.getLast?_eq_none_iff] at hlast
        subst hlast
        rw [hending, hunended]
        rfl
    | some p =>
        -- Without an earlier end all pushes have data.
        apply hbehind p hlast
        have hmem := List.mem_of_getLast? hlast
        rw [hearlier] at hmem
        rcases List.mem_append.mp hmem with hmem | hmem
        · exact run_unended hunended p hmem
        · exact (start.run before).1.pipeline.scheduler.flush_endOfStream p hmem
  · exact hbehind p hlast hdata

/-- A datagram that is zero but for a width of eight bits. -/
def octetDatagram : List UInt8 := 0 :: 8 :: List.replicate 1078 0

theorem decode_octetDatagram :
    ∃ f, Frame.decode octetDatagram 0 = .ok f ∧ f.header.bitsPerSample = 8 := by
  have hread : (Frame.decode octetDatagram 0).toOption.map
      (fun f => f.header.bitsPerSample) = some 8 := by decide +kernel
  cases hdecode : Frame.decode octetDatagram 0 with
  | error fault =>
      rw [hdecode] at hread
      cases hread
  | ok f =>
      rw [hdecode] at hread
      exact ⟨f, rfl, Option.some.inj hread⟩

/-- The end mark behind the data of a stream under an outside name has that name. -/
theorem run_names_endings_renamed :
    let clock : Timestamp := .ofHostClock 0.0 0.0
    let start := ofConfig "attach" {} 2024 (some (.ofStream "renamed")) .initial
    ∃ f p ending, Frame.decode octetDatagram 0 = .ok f ∧
      (start.run [.frame f, .finish clock]).2 = [p] ++ ending :: [] ∧
      ending.endOfStream = true ∧ ending.sri.streamId = "renamed" := by
  intro clock start
  obtain ⟨f, hdecode, hbits⟩ := decode_octetDatagram
  let p := start.pipeline
  let batch := Batch.ofOffer .octet (p.offerOf start.external f) true
  have hlane : p.laneFor f.header.bitsPerSample = some .octet := by
    rw [hbits]
    rfl
  have hname : batch.toPush.sri.streamId = "renamed" :=
    (p.merger.merge_standsFor start.external f.header).streamId.trans
      (Sri.merged_streamId start.external f.header "attach")
  obtain ⟨ending, hpushes, hend⟩ : ∃ ending,
      (start.run [.frame f, .finish clock]).2 = [batch.toPush] ++ ending :: [] ∧
        ending.endOfStream = true := by
    obtain ⟨hnext, hnone⟩ := Pipeline.handle_accepted start.external start.counters hlane
    simp only [run_cons, run_nil, call]
    rw [hnext, hnone]
    exact ⟨_, rfl, rfl⟩
  obtain ⟨before, hostClock, after, -, -, hlast, -⟩ := run_names_endings "attach" {} 2024
    (some (.ofStream "renamed")) .initial _ _ ending _ hpushes hend
  exact ⟨f, batch.toPush, ending, hdecode, hpushes, hend, hlast.trans hname⟩

/-- After a second finish the end mark no longer names the stream whose data was pushed: a
stream under an outside name ends once under that and once under the attachment's. -/
theorem second_finish_renames :
    let clock : Timestamp := .ofHostClock 0.0 0.0
    let start := ofConfig "attach" {} 2024 none .initial
    ∃ f, Frame.decode octetDatagram 0 = .ok f ∧
      (start.run [.describe (some (.ofStream "renamed")), .frame f, .finish clock,
          .finish clock]).2.map (fun p => (p.endOfStream, p.sri.streamId)) =
        [(false, "renamed"), (true, "renamed"), (true, "attach")] := by
  intro clock start
  obtain ⟨f, hdecode, hbits⟩ := decode_octetDatagram
  let p := start.pipeline
  let renamed := Sri.ofStream "renamed"
  have hlane : p.laneFor f.header.bitsPerSample = some .octet := by
    rw [hbits]
    rfl
  have hname : (p.offerOf (some renamed) f).sri.streamId = "renamed" :=
    (p.merger.merge_standsFor (some renamed) f.header).streamId.trans
      (Sri.merged_streamId (some renamed) f.header "attach")
  obtain ⟨hnext, hpushes⟩ := Pipeline.handle_accepted (some renamed) start.counters hlane
  have htaken : (p.wakeScheduler .octet).offer (p.offerOf (some renamed) f) =
      ({ p.wakeScheduler .octet with
          batch := some (.ofOffer .octet (p.offerOf (some renamed) f) true)
          lastValid := some f.header.timeValid }, []) := by
    rfl
  have hforgotten : (p.merger.merge (some renamed) f.header).1.invalidate.current.streamId =
      "attach" := rfl
  rw [htaken] at hnext hpushes
  refine ⟨f, hdecode, ?_⟩
  simp only [run_cons, run_nil, call]
  rw [hnext, hpushes]
  simp [Pipeline.finish, Scheduler.finish, Scheduler.flush, Batch.toPush, Batch.ofOffer, hname,
    hforgotten]

end New

end PipelineState

end SddsReceiver
