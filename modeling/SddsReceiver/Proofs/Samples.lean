import SddsReceiver.Samples.Buffer
import Mathlib.Data.List.Basic

/-!
# The samples of a buffer

A buffer seen as a list of samples, each with the lane that it belongs to. A payload decoded
in a lane and a byte order is such a list too: at each multiple of the width stands a number,
whose digits in base 256 are the bytes there. Extending a buffer by the payload appends it. The
payload of a packet fills every lane without a rest.
-/
namespace SddsReceiver

/-- A sample with its lane; floating-point samples are 32-bit patterns. -/
inductive Sample where
  | octet (value : Int8)
  | short (value : Int16)
  | float (pattern : UInt32)
  deriving DecidableEq, Repr

namespace Sample

def ofWord : Lane → Nat → Sample
  | .octet, n => octet (UInt8.ofNat n).toInt8
  | .short, n => short (UInt16.ofNat n).toInt16
  | .float, n => float (UInt32.ofNat n)

/-- Bytes that a sample takes up. -/
def width : Lane → Nat
  | .octet => 1
  | .short => 2
  | .float => 4

/-- The number with these bytes as its digits in base 256. -/
def number (order : ByteOrder) (bytes : List UInt8) : Nat :=
  match order with
  | .big => bytes.foldl (fun n b => 256 * n + b.toNat) 0
  | .little => bytes.foldr (fun b n => 256 * n + b.toNat) 0

/-- The samples in a payload: one for each whole run of the lane's width. -/
def decode (lane : Lane) (order : ByteOrder) (payload : List UInt8) : List Sample :=
  (List.range (payload.length / width lane)).map fun j =>
    ofWord lane (number order ((payload.drop (j * width lane)).take (width lane)))

theorem width_eq_byteWidth (lane : Lane) : width lane = lane.byteWidth := by
  cases lane <;> rfl

theorem number_eq_read (order : ByteOrder) (bytes : List UInt8) :
    number order bytes = order.read bytes := by
  have hlittle : ∀ bytes : List UInt8,
      Bytes.littleToNat bytes = bytes.foldr (fun b n => 256 * n + b.toNat) 0 := by
    intro bytes
    induction bytes with
    | nil => rfl
    | cons b bytes ih => rw [Bytes.littleToNat, List.foldr_cons, ih, Nat.add_comm]
  cases order with
  | little => exact (hlittle bytes).symm
  | big => rw [ByteOrder.read, Bytes.bigToNat, hlittle, List.foldr_reverse, number]

end Sample

theorem byteRuns_eq_map_range (width : Nat) (bytes : List UInt8) :
    byteRuns width bytes = (List.range (bytes.length / (width + 1))).map fun j =>
      (bytes.drop (j * (width + 1))).take (width + 1) := by
  induction bytes using byteRuns.induct width with
  | case1 bytes h ih =>
      have hcount : bytes.length / (width + 1) =
          (bytes.drop (width + 1)).length / (width + 1) + 1 := by
        rw [List.length_drop]
        exact Nat.div_eq_sub_div (Nat.succ_pos width) (Nat.succ_le_of_lt h)
      rw [byteRuns, if_pos h, ih, hcount, List.range_succ_eq_map, List.map_cons, List.map_map,
        Nat.zero_mul, List.drop_zero]
      congr 1
      apply List.map_congr_left
      intro j _
      rw [List.drop_drop, Function.comp_apply, Nat.succ_mul, Nat.add_comm (j * (width + 1))]
  | case2 bytes h =>
      rw [byteRuns, if_neg h, Nat.div_eq_of_lt (by omega)]
      rfl

theorem Sample.decode_eq_runs (lane : Lane) (order : ByteOrder) (payload : List UInt8) :
    decode lane order payload =
      (byteRuns (lane.byteWidth - 1) payload).map fun run => ofWord lane (order.read run) := by
  have hwidth : lane.byteWidth - 1 + 1 = lane.byteWidth := Nat.sub_add_cancel lane.byteWidth_pos
  rw [byteRuns_eq_map_range, hwidth, List.map_map, decode, width_eq_byteWidth]
  simp only [Function.comp_def, number_eq_read]

theorem byteRuns_of_short {width : Nat} {bytes : List UInt8} (h : bytes.length ≤ width) :
    byteRuns width bytes = [] := by
  rw [byteRuns, if_neg (Nat.not_lt.mpr h)]

/-- Runs that are joined are cut again where they were joined. -/
theorem byteRuns_flatten_append {width : Nat} {runs : List (List UInt8)}
    (h : ∀ run ∈ runs, run.length = width + 1) (rest : List UInt8) :
    byteRuns width (runs.flatten ++ rest) = runs ++ byteRuns width rest := by
  induction runs with
  | nil => rfl
  | cons run runs ih =>
      have hrun : run.length = width + 1 := h run List.mem_cons_self
      have hruns : ∀ r ∈ runs, r.length = width + 1 :=
        fun r hr => h r (List.mem_cons_of_mem run hr)
      rw [List.flatten_cons, List.append_assoc, byteRuns, if_pos]
      · rw [← hrun, List.take_left, List.drop_left, ih hruns, List.cons_append]
      · rw [List.length_append]
        omega

/-- A payload that is joined from runs of the right width has a sample for each of them. -/
theorem Sample.decode_flatten {lane : Lane} {runs : List (List UInt8)}
    (h : ∀ run ∈ runs, run.length = lane.byteWidth) (order : ByteOrder) :
    decode lane order runs.flatten = runs.map fun run => ofWord lane (order.read run) := by
  have hwidth : ∀ run ∈ runs, run.length = lane.byteWidth - 1 + 1 := by
    intro run hrun
    rw [h run hrun, Nat.sub_add_cancel lane.byteWidth_pos]
  have hnil : byteRuns (lane.byteWidth - 1) [] = [] := byteRuns_of_short (Nat.zero_le _)
  have hruns := byteRuns_flatten_append hwidth []
  rw [List.append_nil, hnil, List.append_nil] at hruns
  rw [decode_eq_runs, hruns]

theorem Sample.decode_replicate {lane : Lane} {run : List UInt8}
    (h : run.length = lane.byteWidth) (order : ByteOrder) (n : Nat) :
    decode lane order (List.replicate n run).flatten =
      List.replicate n (ofWord lane (order.read run)) := by
  have hruns : ∀ r ∈ List.replicate n run, r.length = lane.byteWidth := by
    intro r hr
    rw [List.eq_of_mem_replicate hr, h]
  rw [decode_flatten hruns, List.map_replicate]

theorem Sample.length_decode (lane : Lane) (order : ByteOrder) (payload : List UInt8) :
    (decode lane order payload).length = payload.length / lane.byteWidth := by
  rw [decode, List.length_map, List.length_range, width_eq_byteWidth]

namespace SampleBuffer

def samples : SampleBuffer → List Sample
  | octet values => values.toList.map .octet
  | short values => values.toList.map .short
  | float patterns => patterns.toList.map .float

@[simp] theorem samples_empty (lane : Lane) : (empty lane).samples = [] := by
  cases lane <;> rfl

@[simp] theorem length_samples (b : SampleBuffer) : b.samples.length = b.size := by
  cases b <;> simp [samples, size]

theorem samples_appendWords (b : SampleBuffer) (words : List Nat) :
    (b.appendWords words).samples = b.samples ++ words.map (Sample.ofWord b.lane) := by
  cases b <;> simp [appendWords, samples, lane, Sample.ofWord, Function.comp_def]

/-- Extending a buffer appends the samples that its lane reads out of the payload. -/
theorem samples_extend (b : SampleBuffer) (payload : List UInt8) (order : ByteOrder) :
    (b.extend payload order).samples = b.samples ++ Sample.decode b.lane order payload := by
  rw [extend, samples_appendWords, payloadWords, List.map_map, Sample.decode_eq_runs]
  rfl

theorem size_extend (b : SampleBuffer) (payload : List UInt8) (order : ByteOrder) :
    (b.extend payload order).size = b.size + payload.length / b.lane.byteWidth := by
  rw [← length_samples, samples_extend, List.length_append, length_samples,
    Sample.length_decode]

/-- A packet's payload adds exactly one frame of samples. -/
theorem size_extend_payload (b : SampleBuffer) {payload : List UInt8} (order : ByteOrder)
    (h : payload.length = payloadLength) :
    (b.extend payload order).size = b.size + b.lane.samplesPerFrame := by
  rw [size_extend, h, Lane.samplesPerFrame]

/-- The buffer that holds those of some samples that are of a lane. -/
def ofSamples (lane : Lane) (samples : List Sample) : SampleBuffer :=
  match lane with
  | .octet => octet (samples.filterMap fun | .octet value => some value | _ => none).toArray
  | .short => short (samples.filterMap fun | .short value => some value | _ => none).toArray
  | .float => float (samples.filterMap fun | .float pattern => some pattern | _ => none).toArray

theorem ofSamples_samples (b : SampleBuffer) : ofSamples b.lane b.samples = b := by
  cases b <;> simp [ofSamples, samples, lane, List.filterMap_map]

end SampleBuffer

end SddsReceiver
