import SddsReceiver.Proofs.Pipeline.WholeStream
import SddsReceiver.Proofs.Signal.Settings
import SddsReceiver.Signal.FrameGenerator

/-!
# A clean stream arrives whole

A generator is asked for packets, and between two of them its rate may be changed and its time
be moved. Whatever is asked, the packets keep the width of the generator, a valid time tag and
clear parity and reserved bits, and their numbers follow one another. So each is read as a
frame, and a fresh pipeline misses none.

The generator and the tracker never meet: that the next number is the one due is carried along
the list of numbers, which are the successors of the first one.
-/
namespace SddsReceiver

namespace Signal
open SequenceNumber

structure PacketBuilder.Clean (lane : Lane) (b : PacketBuilder) : Prop where
  bitsPerSample : b.get .bitsPerSample = lane.bits
  timeValid : b.get .timeValid = true
  parity : b.get .parity = false
  reserved : b.get .reserved = 0

namespace PacketBuilder.Clean
variable {lane : Lane} {b : PacketBuilder}

theorem set (h : b.Clean lane) {s : PacketSetting}
    (hother : s.field ∉ [.bitsPerSample, .timeValid, .parity, .reserved]) :
    (b.set s).Clean lane := by
  simp only [List.mem_cons, List.not_mem_nil, or_false, not_or] at hother
  obtain ⟨hbits, hvalid, hparity, hreserved⟩ := hother
  exact ⟨(b.get_set_other hbits).trans h.bitsPerSample,
    (b.get_set_other hvalid).trans h.timeValid, (b.get_set_other hparity).trans h.parity,
    (b.get_set_other hreserved).trans h.reserved⟩

theorem of_bits (lane : Lane) :
    (PacketBuilder.initial.set (.bitsPerSample lane.bits)).Clean lane := by
  cases lane <;> exact ⟨by decide, by decide, by decide, by decide⟩

end PacketBuilder.Clean

inductive GeneratorCall where
  | next
  | setRate (hertz : Float)
  | offset (ps : Int)
  deriving Repr

def GeneratorCall.isNext : GeneratorCall → Bool
  | .next => true
  | .setRate _ | .offset _ => false

namespace FrameGenerator

/-- A generator in the width of a lane, at any place in its stream. -/
def starting (lane : Lane) (rateHertz : Float) (complex : Bool) (first : UInt16) (timePs : Nat)
    (stepPs : Option Float) : FrameGenerator :=
  { (initial rateHertz lane.bits).setComplex complex with
    sequenceNumber := first
    timePs := timePs
    stepPs := stepPs }

variable (g : FrameGenerator)

def call : GeneratorCall → FrameGenerator × List PacketBuilder
  | .next => (g.next.1, [g.next.2])
  | .setRate hertz => (g.setRate hertz, [])
  | .offset ps => (g.offset ps, [])

def play (g : FrameGenerator) : List GeneratorCall → FrameGenerator × List PacketBuilder
  | [] => (g, [])
  | c :: cs =>
      let (after, made) := g.call c
      let (last, rest) := after.play cs
      (last, made ++ rest)

theorem play_cons (c : GeneratorCall) (cs : List GeneratorCall) :
    g.play (c :: cs) =
      (((g.call c).1.play cs).1, (g.call c).2 ++ ((g.call c).1.play cs).2) := rfl

theorem play_append (first second : List GeneratorCall) :
    g.play (first ++ second) =
      (((g.play first).1.play second).1, (g.play first).2 ++ ((g.play first).1.play second).2) := by
  induction first generalizing g with
  | nil => rfl
  | cons c cs ih => simp only [List.cons_append, play_cons, ih, List.append_assoc]

theorem play_replicate_next (n : Nat) : g.play (List.replicate n .next) = g.nextAll n := by
  induction n generalizing g with
  | zero => rfl
  | succ n ih =>
      rw [List.replicate_succ, play_cons, ih]
      rfl

theorem length_play (calls : List GeneratorCall) :
    (g.play calls).2.length = calls.countP GeneratorCall.isNext := by
  induction calls generalizing g with
  | nil => rfl
  | cons c cs ih =>
      rw [play_cons, List.length_append, ih, List.countP_cons, Nat.add_comm]
      cases c <;> rfl

section Clean
variable {g} {lane : Lane}

theorem starting_clean (lane : Lane) (rateHertz : Float) (complex : Bool) (first : UInt16)
    (timePs : Nat) (stepPs : Option Float) :
    (starting lane rateHertz complex first timePs stepPs).template.Clean lane := by
  have hwidth := PacketBuilder.Clean.of_bits lane
  have hrate := hwidth.set (s := .sampleRate rateHertz) (by simp [PacketSetting.field])
  exact hrate.set (s := .complex complex) (by simp [PacketSetting.field])

theorem next_clean (h : g.template.Clean lane) : g.next.2.Clean lane := by
  have hnumbered := h.set (s := .sequenceNumber g.sequenceNumber) (by simp [PacketSetting.field])
  exact hnumbered.set (s := .time (TimeTag.ofPicoseconds g.timePs)) (by simp [PacketSetting.field])

theorem call_clean (h : g.template.Clean lane) (c : GeneratorCall) :
    (g.call c).1.template.Clean lane ∧ ∀ p ∈ (g.call c).2, p.Clean lane := by
  cases c with
  | next => exact ⟨h, by simpa [call] using next_clean h⟩
  | setRate hertz =>
      refine ⟨?_, by simp [call]⟩
      exact h.set (s := .sampleRate hertz) (by simp [PacketSetting.field])
  | offset ps => exact ⟨h, by simp [call]⟩

theorem play_clean (h : g.template.Clean lane) (calls : List GeneratorCall) :
    ∀ p ∈ (g.play calls).2, p.Clean lane := by
  induction calls generalizing g with
  | nil => simp [play]
  | cons c cs ih =>
      obtain ⟨hnext, hmade⟩ := call_clean h c
      rw [play_cons]
      intro p hp
      rcases List.mem_append.mp hp with hp | hp
      · exact hmade p hp
      · exact ih hnext p hp

end Clean

/-- Every packet takes the number that is up, and the next one is its successor. -/
theorem call_numbers (c : GeneratorCall) :
    (g.call c).1.sequenceNumber = successor^[(g.call c).2.length] g.sequenceNumber ∧
      ((g.call c).2.map PacketBuilder.header).map Header.sequenceNumber =
        List.iterate successor g.sequenceNumber (g.call c).2.length := by
  cases c <;> exact ⟨rfl, rfl⟩

theorem play_numbers (calls : List GeneratorCall) :
    (g.play calls).1.sequenceNumber = successor^[(g.play calls).2.length] g.sequenceNumber ∧
      ((g.play calls).2.map PacketBuilder.header).map Header.sequenceNumber =
        List.iterate successor g.sequenceNumber (g.play calls).2.length := by
  induction calls generalizing g with
  | nil => exact ⟨rfl, rfl⟩
  | cons c cs ih =>
      obtain ⟨hnext, hmade⟩ := g.call_numbers c
      obtain ⟨hlast, hrest⟩ := ih (g.call c).1
      rw [hnext] at hlast hrest
      rw [play_cons, List.length_append]
      constructor
      · rw [hlast, Nat.add_comm, Function.iterate_add_apply]
      · rw [List.map_append, List.map_append, hmade, hrest, List.iterate_add]

theorem play_getElem? (before after : List GeneratorCall) :
    (g.play (before ++ .next :: after)).2[(g.play before).2.length]? =
      some (g.play before).1.next.2 := by
  rw [play_append, play_cons]
  simp [call]

def framesOf (packets : List PacketBuilder) : List Frame :=
  packets.mapIdx fun i p => ⟨p.header, p.build, i⟩

@[simp] theorem length_framesOf (packets : List PacketBuilder) :
    (framesOf packets).length = packets.length := List.length_mapIdx

theorem getElem?_framesOf (packets : List PacketBuilder) (i : Nat) :
    (framesOf packets)[i]? = packets[i]?.map fun p => ⟨p.header, p.build, i⟩ :=
  List.getElem?_mapIdx

theorem map_header_framesOf (packets : List PacketBuilder) :
    (framesOf packets).map Frame.header = packets.map PacketBuilder.header := by
  apply List.ext_getElem? fun i => ?_
  rw [List.getElem?_map, getElem?_framesOf, List.getElem?_map, Option.map_map]
  rfl

theorem decode_framesOf {lane : Lane} {packets : List PacketBuilder}
    (h : ∀ p ∈ packets, p.Clean lane) :
    packets.mapIdx (fun i p => Frame.decode p.build.bytes i) = (framesOf packets).map .ok := by
  apply List.ext_getElem? fun i => ?_
  rw [List.getElem?_mapIdx, List.getElem?_map, getElem?_framesOf, Option.map_map]
  cases hp : packets[i]? with
  | none => rfl
  | some p =>
      have hclean := h p (List.mem_of_getElem? hp)
      have hread := (p.decode_build_eq_ok_iff i).mpr
        ⟨hclean.parity, hclean.reserved, rfl⟩
      exact congrArg some hread

/-- Let a generator start in any lane, with real or complex samples and any rate, and at any
number, time and step, and let its rate be changed and its time be moved between the packets in
any way. Every packet is read as a frame; each has the number that follows the one before and
the time of the generator when it was made. A fresh pipeline that takes them and then ends the
stream misses none under any policy and next expects the generator's number. All frames and all
their samples leave it before the one end mark, which is empty. -/
theorem play_arrives_whole (lane : Lane) (rateHertz : Float) (complex : Bool) (first : UInt16)
    (timePs : Nat) (stepPs : Option Float) (calls : List GeneratorCall) (attachId : String)
    (config : Config) (year : Int) (external : Option Sri) (hostClock : Timestamp) :
    let start := starting lane rateHertz complex first timePs stepPs
    let n := calls.countP GeneratorCall.isNext
    ∃ frames : List Frame, frames.length = n ∧
      (start.play calls).2.mapIdx (fun i p => Frame.decode p.build.bytes i) = frames.map .ok ∧
      (∀ before after, calls = before ++ .next :: after →
        ∃ f, frames[before.countP GeneratorCall.isNext]? = some f ∧
          f.header.sequenceNumber = successor^[before.countP GeneratorCall.isNext] first ∧
          f.header.time = TimeTag.ofPicoseconds (start.play before).1.timePs) ∧
      let ended := (PipelineState.ofConfig attachId config year external .initial).run
        (frames.map .frame ++ [.finish hostClock])
      ended.1.counters.dropped = 0 ∧
      ended.1.counters.expected =
        (if n = 0 then none else some (start.play calls).1.sequenceNumber) ∧
      ∃ data ending, ended.2 = data ++ [ending] ∧
        ending.endOfStream = true ∧ ending.samples.size = 0 ∧
        (∀ p ∈ data, p.endOfStream = false) ∧
        (data.map Push.frames).sum = n ∧
        (data.map fun p => p.samples.size).sum = n * 8192 / lane.bits.toNat := by
  intro start n
  let packets := (start.play calls).2
  have hlength : (framesOf packets).length = n := by
    rw [length_framesOf, start.length_play]
  have hclean : ∀ p ∈ packets, p.Clean lane :=
    play_clean (starting_clean lane rateHertz complex first timePs stepPs) calls
  have hframes : ∀ f ∈ framesOf packets,
      f.header.bitsPerSample = lane.bits ∧ f.header.timeValid = true := by
    intro f hf
    have hheader := List.mem_map_of_mem (f := Frame.header) hf
    rw [map_header_framesOf] at hheader
    obtain ⟨p, hp, hsame⟩ := List.mem_map.mp hheader
    rw [← hsame]
    exact ⟨(hclean p hp).bitsPerSample, (hclean p hp).timeValid⟩
  refine ⟨framesOf packets, hlength, decode_framesOf hclean, ?_, ?_⟩
  · rintro before after rfl
    have hmade := start.play_getElem? before after
    have hnumber := (start.play_numbers before).1
    rw [start.length_play] at hmade hnumber
    exact ⟨_, by rw [getElem?_framesOf, hmade]; rfl, hnumber, rfl⟩
  · intro ended
    obtain ⟨hlast, hnumbers⟩ := start.play_numbers calls
    rw [← map_header_framesOf, ← length_framesOf] at hnumbers
    obtain ⟨hdropped, hexpected⟩ :=
      PipelineState.run_stream_numbers attachId config year external hostClock hnumbers
    obtain ⟨data, ending, hpushes, hending, hempty, hdata, htotal, hsamples⟩ :=
      PipelineState.run_stream_totals attachId config year external .initial hostClock
        (fun f hf => (hframes f hf).1) fun f hf => (hframes f hf).2
    rw [hlength] at hexpected htotal hsamples
    refine ⟨hdropped, ?_, data, ending, hpushes, hending, hempty, hdata, htotal, ?_⟩
    · rw [hlast, start.length_play]
      exact hexpected
    · have hwidth : 0 < lane.bits.toNat := by cases lane <;> decide
      have hpayload : lane.samplesPerFrame * lane.bits.toNat = 8192 :=
        lane.samplesPerFrame_mul_bits
      rw [hsamples, ← hpayload, ← Nat.mul_assoc, Nat.mul_div_cancel _ hwidth]

end FrameGenerator
end Signal

end SddsReceiver
