import Mathlib.Algebra.BigOperators.Ring.List
import Mathlib.Algebra.Ring.Nat
import SddsReceiver.Proofs.Samples

/-!
# Samples and the bytes that carry them

A payload is cut into runs of the sample width. As long as no sample is torn apart, cutting
commutes with joining payloads, so a buffer does not tell in how many pieces its bytes came.
Every sample is written back as the run from which it was read, and reversing each run turns
one byte order into the other. Only the bytes of a sample that is not whole leave no trace.
-/
namespace SddsReceiver

section Runs
variable {width : Nat} {bytes : List UInt8}

theorem length_of_mem_byteRuns {run : List UInt8} (h : run ∈ byteRuns width bytes) :
    run.length = width + 1 := by
  induction bytes using byteRuns.induct width with
  | case1 bytes hlong ih =>
      rw [byteRuns, if_pos hlong] at h
      rcases List.mem_cons.mp h with rfl | hlater
      · rw [List.length_take]
        omega
      · exact ih hlater
  | case2 bytes hshort =>
      rw [byteRuns_of_short (Nat.not_lt.mp hshort)] at h
      cases h

theorem flatten_byteRuns :
    (byteRuns width bytes).flatten = bytes.take (bytes.length / (width + 1) * (width + 1)) := by
  induction bytes using byteRuns.induct width with
  | case1 bytes hlong ih =>
      have hlast : bytes.length / (width + 1) * (width + 1) =
          (width + 1) + (bytes.length - (width + 1)) / (width + 1) * (width + 1) := by
        rw [Nat.div_eq_sub_div (Nat.succ_pos width) hlong, Nat.succ_mul, Nat.add_comm]
      rw [byteRuns, if_pos hlong, List.flatten_cons, ih, hlast, List.length_drop]
      exact List.take_add.symm
  | case2 bytes hshort =>
      rw [byteRuns_of_short (Nat.not_lt.mp hshort), Nat.div_eq_of_lt (by omega), Nat.zero_mul]
      rfl

theorem flatten_byteRuns_of_dvd (h : width + 1 ∣ bytes.length) :
    (byteRuns width bytes).flatten = bytes := by
  rw [flatten_byteRuns, Nat.div_mul_cancel h, List.take_length]

theorem byteRuns_append (h : width + 1 ∣ bytes.length) (rest : List UInt8) :
    byteRuns width (bytes ++ rest) = byteRuns width bytes ++ byteRuns width rest := by
  conv_lhs => rw [← flatten_byteRuns_of_dvd h]
  exact byteRuns_flatten_append (fun run hrun => length_of_mem_byteRuns hrun) rest

end Runs

namespace Lane
variable (lane : Lane) (payload : List UInt8)

theorem byteWidth_pred : lane.byteWidth - 1 + 1 = lane.byteWidth :=
  Nat.sub_add_cancel lane.byteWidth_pos

/-- The whole samples of a payload, each as the run of its bytes. -/
def runs : List (List UInt8) := byteRuns (lane.byteWidth - 1) payload

def wholePart : List UInt8 := payload.take (payload.length / lane.byteWidth * lane.byteWidth)

/-- What is left of a payload behind its last whole sample. -/
def partialSample : List UInt8 := payload.drop (payload.length / lane.byteWidth * lane.byteWidth)

/-- A payload with the bytes of each sample in reverse. -/
def reverseSamples : List UInt8 :=
  (lane.runs payload).flatMap List.reverse ++ lane.partialSample payload

theorem length_of_mem_runs {run : List UInt8} (h : run ∈ lane.runs payload) :
    run.length = lane.byteWidth := by
  rw [← lane.byteWidth_pred]
  exact length_of_mem_byteRuns h

theorem flatten_runs : (lane.runs payload).flatten = lane.wholePart payload := by
  rw [runs, flatten_byteRuns, byteWidth_pred, wholePart]

theorem runs_flatten_append {parts : List (List UInt8)}
    (h : ∀ run ∈ parts, run.length = lane.byteWidth) (rest : List UInt8) :
    lane.runs (parts.flatten ++ rest) = parts ++ lane.runs rest := by
  apply byteRuns_flatten_append
  intro run hrun
  rw [h run hrun, byteWidth_pred]

theorem runs_append {first : List UInt8} (h : lane.byteWidth ∣ first.length)
    (rest : List UInt8) : lane.runs (first ++ rest) = lane.runs first ++ lane.runs rest := by
  apply byteRuns_append
  rwa [byteWidth_pred]

theorem runs_nil : lane.runs [] = [] := byteRuns_of_short (Nat.zero_le _)

theorem length_partialSample_lt : (lane.partialSample payload).length < lane.byteWidth := by
  have hlt := Nat.mod_lt payload.length lane.byteWidth_pos
  have hsplit := Nat.div_add_mod' payload.length lane.byteWidth
  rw [partialSample, List.length_drop]
  omega

theorem runs_partialSample : lane.runs (lane.partialSample payload) = [] :=
  byteRuns_of_short (Nat.le_pred_of_lt (lane.length_partialSample_lt payload))

theorem runs_wholePart : lane.runs (lane.wholePart payload) = lane.runs payload := by
  have hruns := lane.runs_flatten_append (fun _ => lane.length_of_mem_runs payload) []
  rwa [flatten_runs, List.append_nil, runs_nil, List.append_nil] at hruns

theorem runs_reverseSamples :
    lane.runs (lane.reverseSamples payload) = (lane.runs payload).map List.reverse := by
  have hreversed : ∀ run ∈ (lane.runs payload).map List.reverse, run.length = lane.byteWidth := by
    intro run hrun
    obtain ⟨original, horiginal, rfl⟩ := List.mem_map.mp hrun
    rw [List.length_reverse, lane.length_of_mem_runs payload horiginal]
  rw [reverseSamples, List.flatMap_def, runs_flatten_append lane hreversed,
    runs_partialSample, List.append_nil]

end Lane

theorem ByteOrder.read_lt (order : ByteOrder) (bytes : List UInt8) :
    order.read bytes < Bytes.span bytes.length := by
  cases order with
  | big => exact Bytes.bigToNat_lt bytes
  | little => exact Bytes.littleToNat_lt bytes

namespace SampleBuffer
variable (b : SampleBuffer) (order : ByteOrder) (payload : List UInt8)

def extendAll (payloads : List (List UInt8)) : SampleBuffer :=
  payloads.foldl (fun b payload => b.extend payload order) b

theorem payloadWords_eq (lane : Lane) :
    payloadWords lane order payload = (lane.runs payload).map order.read := rfl

theorem payloadWords_little (lane : Lane) :
    payloadWords lane .little payload = payloadWords lane .big (lane.reverseSamples payload) := by
  rw [payloadWords_eq, payloadWords_eq, Lane.runs_reverseSamples, List.map_map]
  apply List.map_congr_left
  intro run _
  exact ByteOrder.read_little run

theorem payloadWords_lt (lane : Lane) :
    ∀ n ∈ payloadWords lane order payload, n < Bytes.span lane.byteWidth := by
  intro n hn
  rw [payloadWords_eq] at hn
  obtain ⟨run, hrun, rfl⟩ := List.mem_map.mp hn
  rw [← lane.length_of_mem_runs payload hrun]
  exact order.read_lt run

theorem appendWords_append (first second : List Nat) :
    b.appendWords (first ++ second) = (b.appendWords first).appendWords second := by
  cases b <;> simp [appendWords]

theorem words_appendWords (numbers : List Nat) :
    (b.appendWords numbers).words =
      b.words ++ numbers.map (· % Bytes.span b.lane.byteWidth) := by
  cases b <;>
    simp [appendWords, words, lane, Lane.byteWidth, Bytes.span, Function.comp_def]

theorem words_extend :
    (b.extend payload order).words = b.words ++ payloadWords b.lane order payload := by
  have hfit : (payloadWords b.lane order payload).map (· % Bytes.span b.lane.byteWidth) =
      payloadWords b.lane order payload :=
    (List.map_congr_left fun n hn =>
      Nat.mod_eq_of_lt (payloadWords_lt order payload b.lane n hn)).trans (List.map_id _)
  rw [extend, words_appendWords, hfit]

/-- The samples that a payload adds are written back as its whole samples. -/
theorem toBytes_extend :
    (b.extend payload order).toBytes order = b.toBytes order ++ b.lane.wholePart payload := by
  have hwritten : (payloadWords b.lane order payload).flatMap (order.write b.lane.byteWidth) =
      (b.lane.runs payload).flatten := by
    have hrun : ∀ run ∈ b.lane.runs payload,
        order.write b.lane.byteWidth (order.read run) = id run := by
      intro run hmem
      rw [← b.lane.length_of_mem_runs payload hmem]
      exact order.write_read run
    rw [payloadWords_eq, List.flatMap_map, List.flatMap_def, List.map_congr_left hrun,
      List.map_id]
  rw [toBytes, lane_extend, words_extend, List.flatMap_append, hwritten, Lane.flatten_runs]
  rfl

theorem extend_wholePart : b.extend (b.lane.wholePart payload) order = b.extend payload order := by
  rw [extend, extend, payloadWords_eq, payloadWords_eq, Lane.runs_wholePart]

theorem extend_little :
    b.extend payload .little = b.extend (b.lane.reverseSamples payload) .big := by
  rw [extend, extend, payloadWords_little]

theorem extend_append {first : List UInt8} (h : b.lane.byteWidth ∣ first.length)
    (rest : List UInt8) :
    b.extend (first ++ rest) order = (b.extend first order).extend rest order := by
  rw [extend, extend, extend, lane_appendWords, payloadWords_eq, Lane.runs_append _ h,
    List.map_append, appendWords_append]
  rfl

theorem extend_nil : b.extend [] order = b := by
  rw [extend, payloadWords_eq, Lane.runs_nil]
  cases b <;> rfl

theorem extendAll_eq {payloads : List (List UInt8)}
    (h : ∀ p ∈ payloads, b.lane.byteWidth ∣ p.length) :
    b.extendAll order payloads = b.extend payloads.flatten order := by
  induction payloads generalizing b with
  | nil => exact (b.extend_nil order).symm
  | cons first rest ih =>
      have hfirst : b.lane.byteWidth ∣ first.length := h first List.mem_cons_self
      have hrest : ∀ p ∈ rest, (b.extend first order).lane.byteWidth ∣ p.length := by
        intro p hp
        rw [lane_extend]
        exact h p (List.mem_cons_of_mem first hp)
      calc b.extendAll order (first :: rest)
        _ = (b.extend first order).extendAll order rest := rfl
        _ = (b.extend first order).extend rest.flatten order := ih _ hrest
        _ = b.extend (first ++ rest.flatten) order := (b.extend_append order hfirst _).symm

/-- Payloads of whole samples extend a buffer as all their bytes in one payload do. They add
their own length in bytes, and written back in the order in which they were read, the samples
that they add are the payloads again. Reading the least significant byte first is reading the
most significant first when the bytes of each sample are reversed. And of a payload of any
length, a partial sample at the end is ignored and nothing else. -/
theorem extendAll_keeps_bytes {payloads : List (List UInt8)}
    (h : ∀ p ∈ payloads, b.lane.byteWidth ∣ p.length) :
    let extended := b.extendAll order payloads
    extended = b.extend payloads.flatten order ∧
      extended.byteSize = b.byteSize + (payloads.map List.length).sum ∧
      extended.toBytes order = b.toBytes order ++ payloads.flatten ∧
      (∀ payload, b.extend payload .little = b.extend (b.lane.reverseSamples payload) .big) ∧
      ∀ payload, b.extend payload order = b.extend (b.lane.wholePart payload) order ∧
        (b.extend payload order).toBytes order = b.toBytes order ++ b.lane.wholePart payload ∧
        b.lane.wholePart payload ++ b.lane.partialSample payload = payload ∧
        (b.lane.partialSample payload).length < b.lane.byteWidth := by
  intro extended
  have honce : extended = b.extend payloads.flatten order := b.extendAll_eq order h
  have hwhole : b.lane.byteWidth ∣ payloads.flatten.length := by
    rw [List.length_flatten]
    exact List.dvd_sum (List.forall_mem_map.mpr h)
  refine ⟨honce, ?_, ?_, b.extend_little, ?_⟩
  · rw [honce, byteSize, size_extend, lane_extend, Nat.add_mul, Nat.div_mul_cancel hwhole,
      List.length_flatten, byteSize]
  · rw [honce, toBytes_extend, Lane.wholePart, Nat.div_mul_cancel hwhole, List.take_length]
  · intro payload
    refine ⟨(b.extend_wholePart order payload).symm, b.toBytes_extend order payload,
      List.take_append_drop _ payload, ?_⟩
    exact b.lane.length_partialSample_lt payload

/-- Three signed samples in two payloads, behind one that was there. -/
theorem extendAll_keeps_bytes_short :
    let b : SampleBuffer := .short #[7]
    let payloads : List (List UInt8) := [[0x34, 0x12], [0xfe, 0xff, 0x00, 0x80]]
    (∀ p ∈ payloads, b.lane.byteWidth ∣ p.length) ∧
      b.extendAll .little payloads = .short #[7, 0x1234, -2, -32768] ∧
      (b.extendAll .little payloads).toBytes .little =
        [0x07, 0x00, 0x34, 0x12, 0xfe, 0xff, 0x00, 0x80] := by
  intro b payloads
  have h : ∀ p ∈ payloads, b.lane.byteWidth ∣ p.length := by decide
  obtain ⟨honce, -, hbytes, -⟩ := b.extendAll_keeps_bytes .little h
  refine ⟨h, honce.trans ?_, hbytes⟩
  decide +kernel

end SampleBuffer

end SddsReceiver
