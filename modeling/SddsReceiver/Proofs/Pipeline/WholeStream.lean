import Mathlib.Algebra.BigOperators.Ring.List
import Mathlib.Algebra.Ring.Nat
import Mathlib.Data.List.Iterate
import SddsReceiver.Proofs.Pipeline.Mirror
import SddsReceiver.Proofs.Pipeline.Restart

/-!
# A stream without gaps leaves whole

A fresh pipeline takes the frames of one stream and then its end. Frames of one width with valid
time tags are kept under any policy, so all of them and all their samples leave before the one
end mark. Frames with successive numbers are the ones that are due, so none is reported missing
and the number after the last is expected.
-/
namespace SddsReceiver

namespace SequenceTracker

theorem accept_due (t : SequenceTracker) {n : UInt16} (h : ∀ due ∈ t.expected, due = n) :
    (t.accept n).1 = ⟨some (SequenceNumber.successor n), t.droppedTotal⟩ := by
  have hmissing : t.missingBefore n = 0 := by
    cases hdue : t.expected with
    | none => simp [missingBefore, hdue]
    | some due => simp [missingBefore, hdue, h due hdue]
  simp [accept, hmissing]

end SequenceTracker

/-- Along successors nothing is missed, and the number due is the one after the last. -/
theorem Trackers.takeAll_successors {t : Trackers} {n : UInt16} {headers : List Header}
    (hnumbers : headers.map Header.sequenceNumber =
      List.iterate SequenceNumber.successor n headers.length)
    (hdue : ∀ due ∈ t.sequence.expected, due = n) :
    (headers.foldl take t).sequence.droppedTotal = t.sequence.droppedTotal ∧
      (headers.foldl take t).sequence.expected =
        if headers.length = 0 then t.sequence.expected
        else some (SequenceNumber.successor^[headers.length] n) := by
  induction headers generalizing t n with
  | nil => exact ⟨rfl, rfl⟩
  | cons h headers ih =>
      obtain ⟨hfirst, hrest⟩ := List.cons.inj hnumbers
      subst hfirst
      have hnext : (t.take h).sequence = _ := t.sequence.accept_due hdue
      obtain ⟨hdropped, hexpected⟩ := ih (t := t.take h) hrest (by simp [hnext])
      rw [hnext] at hdropped hexpected
      refine ⟨hdropped, ?_⟩
      rw [List.foldl_cons, hexpected]
      cases headers <;> simp

namespace Intake

/-- If every frame has the width of the lane and a valid tag, every policy keeps them all. -/
theorem length_keptFrames (i : Intake) {lane : Option Lane} (year : YearEpoch)
    {frames : List Frame} (h : ∀ f ∈ frames, f.fits lane = true ∧ f.header.timeValid = true) :
    (i.keptFrames lane year (frames.map .frame)).length = frames.length := by
  induction frames generalizing year with
  | nil => rfl
  | cons f frames ih =>
      obtain ⟨hfits, hvalid⟩ := h f List.mem_cons_self
      have hkept : (i.keptOf lane year (.frame f)).length = 1 := by
        simp [keptOf, keeps, hfits, hvalid]
      rw [List.map_cons, keptFrames, List.length_append, hkept, List.length_cons, Nat.add_comm]
      exact congrArg (· + 1) (ih _ fun k hk => h k (List.mem_cons_of_mem _ hk))

end Intake

theorem PipelineCall.fixedLane_frames {lane : Lane} {frames : List Frame}
    (h : ∀ f ∈ frames, f.header.bitsPerSample = lane.bits) :
    fixedLane (frames.map .frame) = if frames.isEmpty then none else some lane := by
  cases frames with
  | nil => rfl
  | cons f frames =>
      have hlane : (PipelineCall.frame f).lane? = some lane :=
        Header.lane?_eq_some_iff.mpr (h f List.mem_cons_self).symm
      simp [fixedLane, hlane]

theorem PipelineState.run_whole {t : PipelineState} (ht : t.pipeline.Intact)
    (hfresh : t.pipeline.lane = none) {calls : List PipelineCall} {p : Push}
    (hp : p ∈ (t.run calls).2) :
    (p.endOfStream = false → ∃ lane, PipelineCall.fixedLane calls = some lane ∧
        p.samples.size = p.frames * lane.samplesPerFrame) ∧
      (p.endOfStream = true → p.samples.size = 0) := by
  obtain ⟨before, c, after, rfl, hc⟩ := mem_run_pushes hp
  have hwhole := run_call_whole ht hfresh before c hc
  constructor
  · intro hdata
    have hlane := hwhole.data hdata
    refine ⟨p.samples.lane, ?_, hwhole.size_eq⟩
    rw [PipelineCall.fixedLane] at hlane ⊢
    rw [List.append_cons, List.findSome?_append, hlane, Option.some_or]
  · intro hending
    rw [hwhole.ending hending, SampleBuffer.size_empty]

theorem Push.frameTotal_append_ending {data : List Push} {ending : Push}
    (hdata : ∀ p ∈ data, p.endOfStream = false) (hending : ending.endOfStream = true) :
    Push.frameTotal (data ++ [ending]) = (data.map Push.frames).sum := by
  have hkept : data.filter (fun p => !p.endOfStream) = data := by
    rw [List.filter_eq_self]
    intro p hp
    rw [hdata p hp]
    rfl
  simp [Push.frameTotal, hkept, hending]

namespace PipelineState
open PipelineCall

section OneLane
variable (attachId : String) (config : Config) (year : Int) (external : Option Sri)
  (counters : Counters) {lane : Lane} {frames : List Frame}

/-- Frames of one lane with valid tags all leave a fresh pipeline before the one end mark,
under any policy. -/
theorem run_stream_totals (hostClock : Timestamp)
    (hbits : ∀ f ∈ frames, f.header.bitsPerSample = lane.bits)
    (hvalid : ∀ f ∈ frames, f.header.timeValid = true) :
    ∃ data ending,
      ((ofConfig attachId config year external counters).run
        (frames.map .frame ++ [.finish hostClock])).2 = data ++ [ending] ∧
      ending.endOfStream = true ∧ ending.samples.size = 0 ∧
      (∀ p ∈ data, p.endOfStream = false) ∧
      (data.map Push.frames).sum = frames.length ∧
      (data.map fun p => p.samples.size).sum = frames.length * lane.samplesPerFrame := by
  let start := ofConfig attachId config year external counters
  have hstart : start.pipeline.Informed attachId := .ofConfig attachId config year
  have hfollows : start.Follows (.ofConfig external config) :=
    .ofConfig attachId config year external counters
  have hlane := fixedLane_frames hbits
  obtain ⟨data, ending, hpushes, hending, hdata⟩ := start.run_stream_endOfStream frames hostClock
  have hwhole : ∀ p ∈ data ++ [ending], _ := fun p hp =>
    run_whole hstart.toIntact rfl (hpushes ▸ hp)
  have hframes : (data.map Push.frames).sum = frames.length := by
    obtain ⟨delivered, hkept, hdelivered⟩ := run_stream_delivers hfollows rfl rfl rfl
      (fun _ => none) frames hostClock hstart
    rw [withRestarts_none, hpushes] at hdelivered
    rw [← Push.frameTotal_append_ending hdata hending, hdelivered.frameTotal, ← hkept.length_eq]
    apply Intake.length_keptFrames
    intro f hf
    refine ⟨?_, hvalid f hf⟩
    rw [hlane]
    cases frames with
    | nil => cases hf
    | cons g gs => exact Frame.fits_some_iff.mpr (hbits f hf).symm
  have hsizes : ∀ p ∈ data, p.samples.size = p.frames * lane.samplesPerFrame := by
    intro p hp
    obtain ⟨fixed, hfixed, hsize⟩ := (hwhole p (List.mem_append_left _ hp)).1 (hdata p hp)
    have hend : fixedLane (frames.map .frame ++ [.finish hostClock]) =
        fixedLane (frames.map .frame) := by
      simp [fixedLane, List.findSome?_append, lane?]
    rw [hend, hlane] at hfixed
    split at hfixed
    · cases hfixed
    · cases hfixed
      exact hsize
  refine ⟨data, ending, hpushes, hending, ?_, hdata, hframes, ?_⟩
  · exact (hwhole ending (by simp)).2 hending
  · rw [List.map_congr_left hsizes, List.sum_map_mul_right, hframes]

/-- If the frames have successive numbers, a fresh pipeline reports none missing and expects the
number after the last. -/
theorem run_stream_numbers (hostClock : Timestamp) {n : UInt16}
    (hnumbers : (frames.map Frame.header).map Header.sequenceNumber =
      List.iterate SequenceNumber.successor n frames.length) :
    let ended := (ofConfig attachId config year external .initial).run
      (frames.map .frame ++ [.finish hostClock])
    ended.1.counters.dropped = 0 ∧
      ended.1.counters.expected = if frames.length = 0 then none
        else some (SequenceNumber.successor^[frames.length] n) := by
  intro ended
  let start := ofConfig attachId config year external .initial
  have hshow : ended.1.counters.Show ended.1.pipeline :=
    run_show (t := start) ⟨rfl, rfl, rfl, rfl⟩ _
  have hheaders : (frames.map PipelineCall.frame ++ [PipelineCall.finish hostClock]).filterMap
      header? = frames.map Frame.header := by
    simp [List.filterMap_map, Function.comp_def, header?]
  have htrackers : ended.1.pipeline.trackers =
      (frames.map Frame.header).foldl Trackers.take start.pipeline.trackers := by
    rw [← hheaders]
    exact start.run_trackers _
  have hlength : (frames.map Frame.header).length = frames.length := List.length_map _
  obtain ⟨hdropped, hexpected⟩ := Trackers.takeAll_successors (t := start.pipeline.trackers)
    (hlength ▸ hnumbers) nofun
  rw [← htrackers] at hdropped hexpected
  constructor
  · rw [hshow.dropped]
    exact congrArg UInt64.ofNat hdropped
  · rw [hlength] at hexpected
    exact hshow.expected.trans hexpected

end OneLane

end PipelineState

end SddsReceiver
