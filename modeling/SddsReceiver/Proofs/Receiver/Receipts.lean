import SddsReceiver.Proofs.Packet
import SddsReceiver.Proofs.Receiver.Placement
import SddsReceiver.Proofs.Receiver.Reception
import Mathlib.Data.List.Forall2

/-!
# What becomes of every datagram

A receipt notes a datagram that was read and what slots there were for it at that moment. Its
fate can be told from the receipt alone: it is malformed, or it is placed, or it is dropped
because neither the hand nor the pool had a slot.

The counters are the numbers of receipts, and the frames on their way are the placed datagrams,
byte for byte and in order. Both are kept by one operation, whoever carries it out, and so by
every history.
-/
namespace SddsReceiver

/-- Copy bytes over a slot, which takes exactly as many as it holds. -/
def Packet.overwrite? (slot : Packet) (bytes : List UInt8) : Option Packet :=
  if h : bytes.length = slot.bytes.length then some ⟨bytes, h.trans slot.length_eq⟩ else none

theorem Packet.overwrite?_self (slot p : Packet) : slot.overwrite? p.bytes = some p :=
  dif_pos (p.length_eq.trans slot.length_eq.symm)

/-- A datagram that was read, with the slots that there were for it. -/
structure Receipt where
  /-- The datagram as it arrived. -/
  bytes : List UInt8
  /-- Slots in hand. -/
  hand : List Packet
  /-- Empty slots of the pool. -/
  empty : List Packet
  deriving DecidableEq, Repr

inductive Fate where
  | malformed
  | placed
  /-- There was no slot. -/
  | dropped
  deriving DecidableEq, Repr

namespace Receipt

def fate (r : Receipt) : Fate :=
  if IsFrame r.bytes then if r.hand = [] ∧ r.empty = [] then .dropped else .placed
  else .malformed

theorem fate_eq_malformed_iff {r : Receipt} : r.fate = .malformed ↔ ¬ IsFrame r.bytes := by
  unfold fate
  split_ifs with hframe hnone <;> simp [hframe]

structure Becomes (r : Receipt) (f : Frame) : Prop where
  bytes_eq : f.packet.bytes = r.bytes
  header_eq : Header.decode r.bytes = .ok f.header
  overwrite_eq : ∀ slot : Packet,
    slot.overwrite? (r.bytes.take Ingest.scratchLength) = some f.packet

end Receipt

namespace Ingest

/-- The receipt for what the next operation reads, if it reads a datagram. -/
def receipt? (i : Ingest) (pool : Pool) (batch : Nat) : Reading → Option Receipt
  | .datagram bytes => if i.reads batch then some ⟨bytes, i.hand, pool.empty⟩ else none
  | .failure | .nothing | .cancelled => none

/-- Cutting a datagram to the room there is does not make a frame of it, nor the reverse. -/
theorem isFrame_cut_iff {bytes : List UInt8} :
    IsFrame (bytes.take scratchLength) ↔ IsFrame bytes := by
  have hlength : (bytes.take scratchLength).length = packetLength ↔
      bytes.length = packetLength := by
    simp only [List.length_take, scratchLength, packetLength, headerLength, payloadLength]
    omega
  have hword : (bytes.take scratchLength).take 2 = bytes.take 2 := by
    rw [List.take_take]
    rfl
  rw [IsFrame, IsFrame, hlength, FirstWordClear, FirstWordClear, hword]

theorem cut_of_isFrame {bytes : List UInt8} (h : IsFrame bytes) :
    bytes.take scratchLength = bytes :=
  List.take_of_length_le (h.1 ▸ by decide)

theorem becomes_of_decode {bytes : List UInt8} {arrival : Nat} {f : Frame}
    (h : Frame.decode (bytes.take scratchLength) arrival = .ok f) (hand empty : List Packet) :
    Receipt.Becomes ⟨bytes, hand, empty⟩ f := by
  have hframe : IsFrame bytes := isFrame_cut_iff.mp (Frame.isFrame_of_decode h)
  have hcut := cut_of_isFrame hframe
  obtain ⟨g, hg, hbytes, -, hheader⟩ := Frame.decode_of_isFrame hframe arrival
  rw [hcut, hg] at h
  cases h
  exact ⟨hbytes, hheader, fun slot => by rw [hcut, ← hbytes, slot.overwrite?_self]⟩

section Place
variable (i : Ingest) (pool : Pool) (c : Counters) {batch : Nat} (bytes : List UInt8)

theorem ensureHand_hand_isEmpty (hbatch : 0 < batch) :
    (i.ensureHand pool batch).1.hand.isEmpty ↔ i.hand = [] ∧ pool.empty = [] := by
  cases hhand : i.hand with
  | nil =>
      have htaken := pool.length_take batch
      simp only [ensureHand, hhand, List.isEmpty_nil, if_true, List.isEmpty_iff,
        ← List.length_eq_zero_iff, true_and]
      omega
  | cons slot rest => simp [ensureHand, hhand]

theorem place_counters_eq :
    (i.place pool c batch (bytes.take scratchLength)).2.2 =
      (c.addReceived 1).addMalformed (if IsFrame bytes then 0 else 1) := by
  by_cases hframe : IsFrame bytes
  · obtain ⟨f, hdecode, -⟩ := Frame.decode_of_isFrame (isFrame_cut_iff.mpr hframe) i.arrival
    simp [place, hdecode, hframe, Counters.addMalformed]
  · cases hdecode : Frame.decode (bytes.take scratchLength) i.arrival with
    | ok f => exact absurd (isFrame_cut_iff.mp (Frame.isFrame_of_decode hdecode)) hframe
    | error fault => simp [place, hdecode, hframe]

/-- The frame that is accepted is that of a placed datagram, and no other is accepted. -/
theorem accepted_becomes (hbatch : 0 < batch) :
    let r : Receipt := ⟨bytes, i.hand, pool.empty⟩
    List.Forall₂ Receipt.Becomes (if r.fate = .placed then [r] else [])
      (i.accepted pool batch (bytes.take scratchLength)) := by
  intro r
  cases hdecode : Frame.decode (bytes.take scratchLength) i.arrival with
  | ok f =>
      have hframe : IsFrame bytes := isFrame_cut_iff.mp (Frame.isFrame_of_decode hdecode)
      have hbecomes : r.Becomes f := becomes_of_decode hdecode i.hand pool.empty
      rw [accepted, hdecode]
      by_cases hnone : i.hand = [] ∧ pool.empty = []
      · have hempty := (i.ensureHand_hand_isEmpty pool hbatch).mpr hnone
        have hfate : r.fate = .dropped := by rw [Receipt.fate, if_pos hframe, if_pos hnone]
        simp [hempty, hfate]
      · have hempty := mt (i.ensureHand_hand_isEmpty pool hbatch).mp hnone
        have hfate : r.fate = .placed := by rw [Receipt.fate, if_pos hframe, if_neg hnone]
        simp [hempty, hfate, hbecomes]
  | error fault =>
      have hother : ¬IsFrame bytes := by
        intro hframe
        obtain ⟨f, hread, -⟩ := Frame.decode_of_isFrame (isFrame_cut_iff.mpr hframe) i.arrival
        rw [hdecode] at hread
        cases hread
      have hfate : r.fate = .malformed := by rw [Receipt.fate, if_neg hother]
      simp [accepted, hdecode, hfate]

end Place

section Step
variable {i : Ingest} {pool : Pool} {batch : Nat} {reading : Reading}

theorem unread_of_receipt? (h : i.receipt? pool batch reading = none) (bytes : List UInt8)
    (hreading : reading = .datagram bytes) : i.reads batch = false := by
  subst hreading
  simpa [receipt?] using h

theorem step_of_receipt? {r : Receipt} (h : i.receipt? pool batch reading = some r)
    (c : Counters) :
    r = ⟨r.bytes, i.hand, pool.empty⟩ ∧ i.reads batch = true ∧
      i.placing pool batch reading = i.accepted pool batch (r.bytes.take scratchLength) ∧
      i.step pool c batch reading =
        ({ (i.place pool c batch (r.bytes.take scratchLength)).1 with phase := .drain },
          (i.place pool c batch (r.bytes.take scratchLength)).2) := by
  cases reading with
  | datagram bytes =>
      cases hreads : i.reads batch with
      | false => simp [receipt?, hreads] at h
      | true =>
          obtain rfl : ⟨bytes, i.hand, pool.empty⟩ = r := by simpa [receipt?, hreads] using h
          exact ⟨rfl, rfl, step_of_reads hreads pool c bytes⟩
  | failure => cases h
  | nothing => cases h
  | cancelled => cases h

end Step

end Ingest

namespace Reception

def receipt? (r : Reception) : ReceptionEvent → Option Receipt
  | .ingest reading => r.ingest.receipt? r.pool r.batch reading
  | .pop _ | .recycle _ | .note _ => none

/-- The receipts of a log of events, in the order in which the datagrams were read. -/
def receipts (first : Reception) : List ReceptionEvent → List Receipt
  | [] => []
  | e :: earlier => first.receipts earlier ++ ((first.after earlier).receipt? e).toList

/-- Frames on their way: those that others have taken, those queued and those of the batch. -/
def frames (r : Reception) : List Frame := r.popped ++ r.pool.full ++ r.ingest.filled

/-- Between two states the receipts account for what was counted and placed. -/
structure Accounts (first : Reception) (receipts : List Receipt) (last : Reception) : Prop where
  batch : last.batch = first.batch
  received : last.counters.received = first.counters.received + .ofNat receipts.length
  malformed : last.counters.malformed =
    first.counters.malformed + .ofNat ((receipts.map Receipt.fate).count .malformed)
  placed : ∃ frames, last.frames = first.frames ++ frames ∧
    List.Forall₂ Receipt.Becomes (receipts.filter (·.fate = .placed)) frames ∧
    frames.map Frame.arrival = List.range' first.ingest.arrival frames.length ∧
    last.ingest.arrival = first.ingest.arrival + frames.length

namespace Accounts
variable {first middle last : Reception} {earlier later : List Receipt}

theorem of_same (hbatch : last.batch = first.batch)
    (hreceived : last.counters.received = first.counters.received)
    (hmalformed : last.counters.malformed = first.counters.malformed)
    (hframes : last.frames = first.frames)
    (harrival : last.ingest.arrival = first.ingest.arrival) : Accounts first [] last where
  batch := hbatch
  received := by simp [hreceived]
  malformed := by simp [hmalformed]
  placed := ⟨[], by simp [hframes], .nil, rfl, harrival⟩

theorem trans (h : Accounts first earlier middle) (hnext : Accounts middle later last) :
    Accounts first (earlier ++ later) last where
  batch := hnext.batch.trans h.batch
  received := by
    rw [hnext.received, h.received, List.length_append, UInt64.ofNat_add, UInt64.add_assoc]
  malformed := by
    rw [hnext.malformed, h.malformed, List.map_append, List.count_append, UInt64.ofNat_add,
      UInt64.add_assoc]
  placed := by
    obtain ⟨frames, hframes, hbecome, harrivals, harrival⟩ := h.placed
    obtain ⟨more, hmore, hbecomes, hrange, hlast⟩ := hnext.placed
    refine ⟨frames ++ more, ?_, ?_, ?_, ?_⟩
    · rw [hmore, hframes, List.append_assoc]
    · rw [List.filter_append]
      exact List.rel_append hbecome hbecomes
    · rw [List.map_append, harrivals, hrange, harrival, List.range'_append_1, List.length_append]
    · rw [hlast, harrival, List.length_append, Nat.add_assoc]

end Accounts

section Step
variable {r : Reception}

theorem step_frames (r : Reception) (reading : Reading) :
    (r.step (.ingest reading)).frames =
      r.frames ++ r.ingest.placing r.pool r.batch reading := by
  have hmoves := r.ingest.step_moves r.pool r.counters r.batch reading
  have hframes := congrArg (r.popped ++ ·) hmoves.full_append_filled
  simpa only [frames, step, List.append_assoc] using hframes

/-- One operation of the receiving task accounts for the datagram that it reads. -/
theorem ingest_accounts (hbatch : 0 < r.batch) (reading : Reading) :
    Accounts r (r.receipt? (.ingest reading)).toList (r.step (.ingest reading)) := by
  have hframes := r.step_frames reading
  have harrival :=
    (r.ingest.step_moves r.pool r.counters r.batch reading).arrival_eq
  have hrange := r.ingest.map_arrival_placing r.pool r.batch reading
  cases hreceipt : r.ingest.receipt? r.pool r.batch reading with
  | none =>
      obtain ⟨hcounters, hnone, -⟩ :=
        Ingest.step_of_unread (Ingest.unread_of_receipt? hreceipt) r.pool r.counters
      rw [hnone, List.append_nil] at hframes
      rw [hnone] at harrival
      have hreceived := congrArg Counters.received hcounters
      have hmalformed := congrArg Counters.malformed hcounters
      rw [receipt?, hreceipt]
      exact .of_same rfl hreceived hmalformed hframes harrival
  | some receipt =>
      obtain ⟨hslots, -, hplacing, hstep⟩ := Ingest.step_of_receipt? hreceipt r.counters
      have hcounters : (r.step (.ingest reading)).counters =
          (r.counters.addReceived 1).addMalformed (if IsFrame receipt.bytes then 0 else 1) := by
        rw [← Ingest.place_counters_eq r.ingest r.pool r.counters receipt.bytes]
        exact congrArg (fun x => x.2.2) hstep
      have hbecomes := r.ingest.accepted_becomes r.pool receipt.bytes hbatch
      rw [← hslots, ← hplacing] at hbecomes
      rw [receipt?, hreceipt]
      refine ⟨rfl, ?_, ?_, _, hframes, ?_, hrange, harrival⟩
      · rw [hcounters]
        rfl
      · have hcount : ([receipt].map Receipt.fate).count .malformed =
            if IsFrame receipt.bytes then 0 else 1 := by
          by_cases hframe : IsFrame receipt.bytes <;>
            simp [List.count_singleton, Receipt.fate_eq_malformed_iff, hframe]
        rw [hcounters, Option.toList_some, hcount, apply_ite UInt64.ofNat]
        rfl
      · rw [Option.toList_some, List.filter_cons, List.filter_nil]
        simpa only [decide_eq_true_eq] using hbecomes

/-- Whoever acts, the receipt for what is read accounts for it. -/
theorem step_accounts (hbatch : 0 < r.batch) (e : ReceptionEvent) :
    Accounts r (r.receipt? e).toList (r.step e) := by
  cases e with
  | ingest reading => exact ingest_accounts hbatch reading
  | pop n =>
      have hpopped := r.pool.pop_append_full n
      refine .of_same rfl rfl rfl ?_ rfl
      simp only [frames, step, List.append_assoc]
      rw [← List.append_assoc (r.pool.pop n).2, hpopped]
  | recycle slots => exact .of_same rfl rfl rfl rfl rfl
  | note figures => exact .of_same rfl rfl rfl rfl rfl

theorem after_accounts {first : Reception} (hbatch : 0 < first.batch)
    (log : List ReceptionEvent) : Accounts first (first.receipts log) (first.after log) := by
  induction log with
  | nil => exact .of_same rfl rfl rfl rfl rfl
  | cons e earlier ih => exact ih.trans (step_accounts (ih.batch ▸ hbatch) e)

end Step

theorem start_batch_pos (pool : Pool) (batch : Nat) (counters : Counters) :
    0 < (start pool batch counters).batch :=
  Nat.lt_of_lt_of_le Nat.zero_lt_one (Nat.le_max_right batch 1)

theorem length_eq_fates (receipts : List Receipt) :
    let fates := receipts.map Receipt.fate
    receipts.length = fates.count .malformed + fates.count .placed + fates.count .dropped := by
  intro fates
  induction receipts with
  | nil => rfl
  | cons r rest ih =>
      simp only [fates, List.map_cons, List.length_cons] at ih ⊢
      cases hfate : r.fate <;> simp <;> omega

/-- On any pool, whoever takes frames and gives slots back in between: the datagrams received
are those that were read, and the malformed ones those that carry no frame, by their length on
arrival and the bits of their first word. Every other one is placed, or dropped when neither the
hand nor the pool had a slot for it. The frames that others have taken, those queued and those
of the batch are, after what was queued before, the placed datagrams, byte for byte, with their
headers and numbered from 0 on. Each of them fitted into its slot. -/
theorem after_accounts_datagrams (pool : Pool) (batch : Nat) (counters : Counters)
    (log : List ReceptionEvent) :
    let first := start pool batch counters
    let last := first.after log
    let read := first.receipts log
    let fates := read.map Receipt.fate
    last.counters.received = counters.received + .ofNat read.length ∧
    last.counters.malformed = counters.malformed + .ofNat (fates.count .malformed) ∧
    read.length = fates.count .malformed + fates.count .placed + fates.count .dropped ∧
    ∃ frames, last.popped ++ last.pool.full ++ last.ingest.filled = pool.full ++ frames ∧
      List.Forall₂
        (fun r f => f.packet.bytes = r.bytes ∧ Header.decode r.bytes = .ok f.header ∧
          ∀ slot : Packet, slot.overwrite? (r.bytes.take 2160) = some f.packet)
        (read.filter (·.fate = .placed)) frames ∧
      frames.map Frame.arrival = List.range frames.length := by
  intro first last read fates
  have haccounts : Accounts first read last :=
    after_accounts (start_batch_pos pool batch counters) log
  obtain ⟨frames, hframes, hbecome, harrivals, -⟩ := haccounts.placed
  refine ⟨haccounts.received, haccounts.malformed, length_eq_fates read, frames, ?_, ?_, ?_⟩
  · simpa [first, start, Reception.frames, Ingest.initial] using hframes
  · exact hbecome.imp fun r f h => ⟨h.bytes_eq, h.header_eq, h.overwrite_eq⟩
  · rw [harrivals, List.range_eq_range']
    rfl

end Reception

end SddsReceiver
