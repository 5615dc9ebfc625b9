import SddsReceiver.Proofs.Receiver.Receipts

/-!
# How long a batch is

A batch begins with a datagram that the receiving task has waited for, and goes on with what
has already arrived. It is full when the task has placed as many datagrams as a batch may hold.
A datagram that is malformed, or that finds no slot, takes no room. So a batch never queues more
frames than it may, and looks for a cancellation again once it is full; but a source that never
runs out of refused datagrams keeps the task reading for as long as it likes.
-/
namespace SddsReceiver

def Receipt.placed (read : List Receipt) : Nat := (read.map fate).count .placed

theorem Receipt.placed_append (read more : List Receipt) :
    placed (read ++ more) = placed read + placed more := by
  simp [placed]

theorem Receipt.placed_singleton (r : Receipt) :
    placed [r] = if r.fate = .placed then 1 else 0 := by
  simp [placed, List.count_singleton]

theorem Receipt.fate_ne_placed_iff {r : Receipt} :
    r.fate ≠ .placed ↔ (IsFrame r.bytes → r.hand = [] ∧ r.empty = []) := by
  unfold fate
  split_ifs with hframe hnone <;> simp_all

namespace Ingest

/-- A datagram that is refused leaves the batch, the hand and the pool as they were. -/
theorem place_of_refused {i : Ingest} {pool : Pool} {bytes : List UInt8}
    (h : (⟨bytes, i.hand, pool.empty⟩ : Receipt).fate ≠ .placed) (c : Counters) (batch : Nat) :
    ∃ counted, i.place pool c batch (bytes.take scratchLength) = (i, pool, counted) := by
  cases hdecode : Frame.decode (bytes.take scratchLength) i.arrival with
  | error fault => exact ⟨_, by rw [place, hdecode]⟩
  | ok f =>
      have hframe : IsFrame bytes := isFrame_cut_iff.mp (Frame.isFrame_of_decode hdecode)
      have hnone : i.hand = [] ∧ pool.empty = [] := Receipt.fate_ne_placed_iff.mp h hframe
      obtain ⟨phase, hand, filled, arrival⟩ := i
      obtain rfl : hand = [] := hnone.1
      refine ⟨c.addReceived 1, ?_⟩
      simp [place, hdecode, ensureHand, fill, Pool.take_of_empty hnone.2]

section Drain
variable {i : Ingest} (pool : Pool) (c : Counters) {batch : Nat}

theorem reads_iff : i.reads batch = true ↔
    i.phase = .await ∨ i.phase = .drain ∧ i.filled.length < batch := by
  obtain ⟨phase, hand, filled, arrival⟩ := i
  cases phase <;> simp [reads]

theorem receipt?_of_room (hdrain : i.phase = .drain) (hroom : i.filled.length < batch)
    (bytes : List UInt8) :
    i.receipt? pool batch (.datagram bytes) = some ⟨bytes, i.hand, pool.empty⟩ :=
  if_pos (reads_iff.mpr (.inr ⟨hdrain, hroom⟩))

/-- A refused datagram is counted, and the batch goes on as if it had not come. -/
theorem step_of_refused (hdrain : i.phase = .drain) (hroom : i.filled.length < batch)
    {bytes : List UInt8} (hrefused : (⟨bytes, i.hand, pool.empty⟩ : Receipt).fate ≠ .placed) :
    ∃ counted, i.step pool c batch (.datagram bytes) = (i, pool, counted) := by
  obtain ⟨counted, hplace⟩ := place_of_refused hrefused c batch
  obtain ⟨-, hstep⟩ := step_of_reads (reads_iff.mpr (.inr ⟨hdrain, hroom⟩)) pool c bytes
  exact ⟨counted, by rw [hstep, hplace, ← hdrain]⟩

theorem step_full (hdrain : i.phase = .drain) (hfull : ¬ i.filled.length < batch)
    (reading : Reading) : i.receipt? pool batch reading = none ∧
      i.step pool c batch reading = ((i.queue pool .topUp).1, (i.queue pool .topUp).2, c) := by
  obtain ⟨phase, hand, filled, arrival⟩ := i
  obtain rfl : phase = .drain := hdrain
  cases reading <;> simp_all [receipt?, reads, step]

end Drain

end Ingest

namespace Reception

/-- The datagrams of a batch after an event, given those before it. A batch begins with the
datagram that the task has waited for. -/
def gather (r : Reception) (read : List Receipt) (e : ReceptionEvent) : List Receipt :=
  if r.ingest.phase = .await then (r.receipt? e).toList else read ++ (r.receipt? e).toList

/-- The datagrams that were read since the task last waited for one. -/
def batchReceipts (first : Reception) : List ReceptionEvent → List Receipt
  | [] => []
  | e :: earlier => (first.after earlier).gather (first.batchReceipts earlier) e

theorem batchReceipts_suffix (first : Reception) (log : List ReceptionEvent) :
    first.batchReceipts log <:+ first.receipts log := by
  induction log with
  | nil => exact List.suffix_rfl
  | cons e earlier ih =>
      rw [batchReceipts, receipts, gather]
      split_ifs
      · exact List.suffix_append _ _
      · obtain ⟨before, hbefore⟩ := ih
        exact ⟨before, by rw [← hbefore, List.append_assoc]⟩

/-- The batch grows by a datagram that is read and placed, and by no other. -/
theorem filled_of_read {r : Reception} {reading : Reading} {receipt : Receipt}
    (hbatch : 0 < r.batch)
    (hsome : r.ingest.receipt? r.pool r.batch reading = some receipt) :
    (r.step (.ingest reading)).ingest.filled.length =
      r.ingest.filled.length + Receipt.placed [receipt] := by
  obtain ⟨hslots, -, -, hstep⟩ := Ingest.step_of_receipt? hsome r.counters
  have hplace : (r.step (.ingest reading)).ingest.filled = r.ingest.filled ++
      r.ingest.accepted r.pool r.batch (receipt.bytes.take Ingest.scratchLength) :=
    (congrArg (fun x => x.1.filled) hstep).trans
      (r.ingest.place_spec r.pool r.counters r.batch _).2.1
  have hbecomes := (r.ingest.accepted_becomes r.pool receipt.bytes hbatch).length_eq
  rw [← hslots, apply_ite List.length] at hbecomes
  rw [hplace, List.length_append, ← hbecomes, Receipt.placed_singleton]
  rfl

structure Filled (r : Reception) (read : List Receipt) : Prop where
  length_eq : r.ingest.phase = .drain → r.ingest.filled.length = Receipt.placed read
  filled_eq : r.ingest.phase ≠ .drain → r.ingest.filled = []
  placed_le : Receipt.placed read ≤ r.batch

namespace Filled
variable {r next : Reception} {read : List Receipt} {e : ReceptionEvent} {reading : Reading}

theorem of_idle (h : r.Filled read) (hnone : r.receipt? e = none)
    (hingest : next.ingest = r.ingest) (hbatch : next.batch = r.batch) :
    next.Filled (r.gather read e) := by
  by_cases hawait : r.ingest.phase = .await
  · have hdrain : next.ingest.phase ≠ .drain := by simp [hingest, hawait]
    rw [gather, if_pos hawait, hnone]
    refine ⟨fun hphase => absurd hphase hdrain, fun _ => ?_, Nat.zero_le _⟩
    exact hingest ▸ h.filled_eq (hingest ▸ hdrain)
  · rw [gather, if_neg hawait, hnone, Option.toList_none, List.append_nil]
    obtain ⟨hlength, hfilled, hle⟩ := h
    rw [← hingest] at hlength hfilled
    exact ⟨hlength, hfilled, hbatch ▸ hle⟩

theorem ingest_unread (h : r.Filled read)
    (hnone : r.ingest.receipt? r.pool r.batch reading = none) :
    (r.step (.ingest reading)).Filled (r.gather read (.ingest reading)) := by
  have hdrain : (r.step (.ingest reading)).ingest.phase ≠ .drain :=
    (Ingest.step_of_unread (Ingest.unread_of_receipt? hnone) r.pool r.counters).2.2
  refine ⟨fun hphase => absurd hphase hdrain, fun _ => ?_, ?_⟩
  · have hmoves := r.ingest.step_moves r.pool r.counters r.batch reading
    exact hmoves.filled_eq h.filled_eq hdrain
  · rw [gather, receipt?, hnone]
    split_ifs
    · exact Nat.zero_le _
    · rw [Option.toList_none, List.append_nil]
      exact h.placed_le

theorem ingest_read (h : r.Filled read) (hbatch : 0 < r.batch) {receipt : Receipt}
    (hsome : r.ingest.receipt? r.pool r.batch reading = some receipt) :
    (r.step (.ingest reading)).Filled (r.gather read (.ingest reading)) := by
  obtain ⟨-, hreads, -, hstep⟩ := Ingest.step_of_receipt? hsome r.counters
  have hphase : (r.step (.ingest reading)).ingest.phase = .drain :=
    congrArg (fun x => x.1.phase) hstep
  have hlength := filled_of_read hbatch hsome
  have hone : Receipt.placed [receipt] ≤ 1 := by
    rw [Receipt.placed_singleton]
    split_ifs <;> simp
  rw [gather, receipt?, hsome, Option.toList_some]
  -- The datagram that was waited for begins a batch; any other joins one that has room.
  rcases Ingest.reads_iff.mp hreads with hawait | ⟨hdrain, hroom⟩
  · have hnone : r.ingest.filled = [] := h.filled_eq (by simp [hawait])
    rw [if_pos hawait]
    refine ⟨fun _ => ?_, fun hne => absurd hphase hne, hone.trans hbatch⟩
    rw [hlength, hnone, List.length_nil, Nat.zero_add]
  · have hbefore := h.length_eq hdrain
    rw [if_neg (by simp [hdrain])]
    refine ⟨fun _ => ?_, fun hne => absurd hphase hne, ?_⟩
    · rw [hlength, hbefore, Receipt.placed_append]
    · have hsame : (r.step (.ingest reading)).batch = r.batch := rfl
      rw [Receipt.placed_append, hsame]
      omega

/-- Whoever acts, the batch holds the datagrams that were placed since the task last waited. -/
theorem step (h : r.Filled read) (hbatch : 0 < r.batch) (e : ReceptionEvent) :
    (r.step e).Filled (r.gather read e) := by
  cases e with
  | ingest reading =>
      cases hreceipt : r.ingest.receipt? r.pool r.batch reading with
      | none => exact h.ingest_unread hreceipt
      | some receipt => exact h.ingest_read hbatch hreceipt
  | pop n => exact h.of_idle rfl rfl rfl
  | recycle slots => exact h.of_idle rfl rfl rfl
  | note figures => exact h.of_idle rfl rfl rfl

end Filled

theorem after_filled {first : Reception} (hbatch : 0 < first.batch)
    (hfirst : first.Filled []) (log : List ReceptionEvent) :
    (first.after log).Filled (first.batchReceipts log) := by
  induction log with
  | nil => exact hfirst
  | cons e earlier ih =>
      have hsame : (first.after earlier).batch = first.batch :=
        (after_accounts hbatch earlier).batch
      exact ih.step (hsame ▸ hbatch) e

section Refused
variable {first : Reception} {log : List ReceptionEvent}

/-- As long as refused datagrams arrive the batch goes on, and every one of them is read. -/
theorem after_refused (hdrain : (first.after log).ingest.phase = .drain)
    (hroom : (first.after log).ingest.filled.length < (first.after log).batch)
    {datagrams : List (List UInt8)} (hrefused : ∀ bytes ∈ datagrams,
      (⟨bytes, (first.after log).ingest.hand, (first.after log).pool.empty⟩ : Receipt).fate ≠
        .placed) :
    let later := datagrams.map (fun bytes => .ingest (.datagram bytes)) ++ log
    (∃ counters, first.after later = { first.after log with counters := counters }) ∧
      (first.batchReceipts later).length =
        (first.batchReceipts log).length + datagrams.length := by
  induction datagrams with
  | nil => exact ⟨⟨_, rfl⟩, rfl⟩
  | cons bytes rest ih =>
      obtain ⟨⟨counters, hafter⟩, hlength⟩ :=
        ih fun b hmem => hrefused b (List.mem_cons_of_mem _ hmem)
      -- The earlier ones have changed nothing but the counters, so this one is refused as well.
      obtain ⟨counted, hstep⟩ :=
        Ingest.step_of_refused _ counters hdrain hroom (hrefused bytes List.mem_cons_self)
      have hread := Ingest.receipt?_of_room (first.after log).pool hdrain hroom bytes
      constructor
      · refine ⟨counted, ?_⟩
        rw [List.map_cons, List.cons_append, after, hafter, step, hstep]
      · rw [List.map_cons, List.cons_append, batchReceipts, gather, hafter, receipt?, hread,
          if_neg (by simp [hdrain]), List.length_append, hlength, List.length_cons]
        rfl

end Refused

/-- Of the datagrams read for one batch at most as many are placed as a batch may hold, on any
pool and whoever takes frames and gives slots back in between. The task reads on as long as
fewer are, and queues the batch once it is full, whatever the source has ready. So a batch of
placed datagrams is no longer than it may be. Refused ones, which are malformed or find no slot,
do not count: while the batch has room all that arrive are read, however many they are. -/
theorem after_reads_batch (pool : Pool) (batch : Nat) (counters : Counters)
    (log : List ReceptionEvent) :
    let first := start pool batch counters
    let last := first.after log
    let read := first.batchReceipts log
    let placed := (read.map Receipt.fate).count .placed
    read <:+ first.receipts log ∧
    placed ≤ max batch 1 ∧
    ((∀ r ∈ read, r.fate = .placed) → read.length ≤ max batch 1) ∧
    (last.ingest.phase = .drain →
      (placed = max batch 1 → ∀ reading,
        let next := last.step (.ingest reading)
        last.receipt? (.ingest reading) = none ∧ next.ingest.phase = .topUp ∧
          next.pool.full = last.pool.full ++ last.ingest.filled) ∧
      (placed < max batch 1 → ∀ datagrams : List (List UInt8),
        (∀ bytes ∈ datagrams, IsFrame bytes → last.ingest.hand = [] ∧ last.pool.empty = []) →
        let later := datagrams.map (fun bytes => .ingest (.datagram bytes)) ++ log
        (first.after later).ingest.phase = .drain ∧
          (first.batchReceipts later).length = read.length + datagrams.length)) := by
  intro first last read placed
  have hpos := start_batch_pos pool batch counters
  have hbatch : last.batch = max batch 1 := (after_accounts hpos log).batch
  have hfirst : first.Filled [] := ⟨fun _ => rfl, fun _ => rfl, Nat.zero_le _⟩
  have hfilled : last.Filled read := after_filled hpos hfirst log
  have hle : placed ≤ max batch 1 := hbatch ▸ hfilled.placed_le
  refine ⟨first.batchReceipts_suffix log, hle, fun hall => ?_, fun hdrain => ⟨?_, ?_⟩⟩
  · have hcount : placed = (read.map Receipt.fate).length :=
      List.count_eq_length.mpr (by simpa using fun r hr => (hall r hr).symm)
    rwa [hcount, List.length_map] at hle
  · intro hfull reading
    have hlength : ¬ last.ingest.filled.length < last.batch := by
      rw [hfilled.length_eq hdrain, hbatch]
      exact hfull.not_lt
    obtain ⟨hnone, hstep⟩ :=
      Ingest.step_full last.pool last.counters hdrain hlength reading
    exact ⟨hnone, congrArg (fun x => x.1.phase) hstep, congrArg (fun x => x.2.1.full) hstep⟩
  · intro hroom datagrams hrefused later
    have hlength : last.ingest.filled.length < last.batch := by
      rw [hfilled.length_eq hdrain, hbatch]
      exact hroom
    obtain ⟨⟨counters, hafter⟩, hread⟩ := after_refused hdrain hlength
      fun bytes hmem => Receipt.fate_ne_placed_iff.mpr (hrefused bytes hmem)
    exact ⟨(congrArg (fun x => x.ingest.phase) hafter).trans hdrain, hread⟩

/-- Two datagrams of one byte are read for a batch of one, and the batch goes on. -/
theorem batch_of_one_reads_two :
    let first := start (Pool.ofCapacity 1) 1 .initial
    let log : List ReceptionEvent :=
      [.ingest (.datagram [0]), .ingest (.datagram [0]), .ingest .nothing]
    (first.batchReceipts log).length = 2 ∧ ¬ (first.batchReceipts log).length ≤ first.batch ∧
      (first.after log).ingest.phase = .drain := by
  decide

end Reception

end SddsReceiver
