import SddsReceiver.Proofs.Push.Chunks
import SddsReceiver.Proofs.Push.Steps

/-!
# Pushes as a segmentation of the frames

Which frames share a push can be read off the whole list of frames. The kept frames are cut
where the description or the validity of time tags changes, also on the frames withheld in
between, and each group is chopped by size. A scheduler that begins afresh, is offered the
frames one by one and then finishes hands on exactly these pushes, and an end mark.

The open batch of the scheduler is the open chunk of a segmentation in one pass. It is closed
no later than at the first withheld frame.
-/
namespace SddsReceiver

/-- A kept frame, with the frames withheld since the one kept before it. -/
structure Kept where
  withheld : List Offer
  offer : Offer

namespace Kept

/-- The frames after the one kept before, up to this one. -/
def stretch (k : Kept) : List Offer := k.withheld ++ [k.offer]

def announces (k : Kept) : Bool := k.stretch.any fun o => o.sriChanged

/-- The validity of time tags does not stay as it was before the stretch. -/
def leaves (valid : Bool) (k : Kept) : Bool := k.stretch.any fun o => o.timeValid != valid

end Kept

namespace PushPolicy

/-- The kept frames, after some that were withheld. -/
def keep (p : PushPolicy) : List Offer → List Offer → List Kept
  | _, [] => []
  | withheld, o :: os =>
      if p.withholdInvalid && !o.timeValid then p.keep (withheld ++ [o]) os
      else ⟨withheld, o⟩ :: p.keep [] os

theorem keep_cons (p : PushPolicy) (withheld : List Offer) (o : Offer) (os : List Offer) :
    p.keep withheld (o :: os) = if p.withholds o.timeValid then p.keep (withheld ++ [o]) os
      else ⟨withheld, o⟩ :: p.keep [] os := rfl

/-- Nothing between two kept frames tells them apart. -/
def joins (p : PushPolicy) (a b : Kept) : Bool :=
  !(b.announces || ((p.pushOnEdge || p.withholdInvalid) && b.leaves a.offer.timeValid))

def groups (p : PushPolicy) (offers : List Offer) : List (List Kept) :=
  (p.keep [] offers).splitBy p.joins

/-- The most frames that share a push, twice as many where time tags delimit the groups. -/
def chunkSize (p : PushPolicy) : Nat :=
  if p.pushOnEdge || p.withholdInvalid then p.framesPerPush * 2 else p.framesPerPush

theorem batchLimit_eq_chunkSize (p : PushPolicy) : p.batchLimit = p.chunkSize := rfl

theorem chunkSize_pos {p : PushPolicy} (h : 1 ≤ p.framesPerPush) : 0 < p.chunkSize := by
  unfold chunkSize
  split <;> omega

end PushPolicy

namespace Push

/-- The push of a chunk. Only the first chunk of a group may announce a change. -/
def ofChunk (lane : Lane) (first : Bool) : List Kept → List Push
  | [] => []
  | k :: ks =>
      [{ samples := .ofSamples lane ((k :: ks).flatMap fun k =>
          Sample.decode lane k.offer.order k.offer.payload)
         timestamp := k.offer.timestamp
         sri := ((k :: ks).getLast (List.cons_ne_nil k ks)).offer.sri
         sriChanged := first && k.announces
         endOfStream := false
         frames := (k :: ks).length }]

def ofGroup (lane : Lane) (limit : Nat) (group : List Kept) : List Push :=
  match chunks limit group with
  | [] => []
  | c :: cs => ofChunk lane true c ++ cs.flatMap (ofChunk lane false)

end Push

def PushPolicy.pushes (p : PushPolicy) (lane : Lane) (offers : List Offer) : List Push :=
  (p.groups offers).flatMap (Push.ofGroup lane p.chunkSize)

theorem PushPolicy.announces_of_mem_tail {p : PushPolicy} {g : List Kept}
    (hg : g.IsChain fun a b => p.joins a b) {k : Kept} (hk : k ∈ g.tail) :
    k.announces = false := by
  induction g with
  | nil => cases hk
  | cons a g ih =>
      cases g with
      | nil => cases hk
      | cons b g =>
          rw [List.isChain_cons_cons] at hg
          rcases List.mem_cons.mp hk with rfl | hk
          · have hjoin := hg.1
            simp only [PushPolicy.joins, Bool.not_eq_true', Bool.or_eq_false_iff] at hjoin
            exact hjoin.1
          · exact ih hg.2 hk

/-- Within a group only the first frame can announce a change, so a later chunk never announces
one, and all chunks can be treated alike. -/
theorem PushPolicy.ofGroup_eq {p : PushPolicy} {g : List Kept}
    (hg : g.IsChain fun a b => p.joins a b) (lane : Lane) (limit : Nat) :
    Push.ofGroup lane limit g = (chunks limit g).flatMap (Push.ofChunk lane true) := by
  unfold Push.ofGroup
  cases hcs : chunks limit g with
  | nil => rfl
  | cons c cs =>
      have hc : c ≠ [] := ne_nil_of_mem_chunks (n := limit) (l := g) (by simp [hcs])
      have htail : g.tail = c.tail ++ cs.flatten := by
        rw [← flatten_chunks limit g, hcs, List.flatten_cons, List.tail_append_of_ne_nil hc]
      have hlater : ∀ d ∈ cs, Push.ofChunk lane false d = Push.ofChunk lane true d := by
        intro d hd
        cases d with
        | nil => rfl
        | cons k ks =>
            have hk : k ∈ g.tail := by
              rw [htail]
              exact List.mem_append_right _ (List.mem_flatten.mpr ⟨k :: ks, hd, by simp⟩)
            simp [Push.ofChunk, announces_of_mem_tail hg hk]
      show Push.ofChunk lane true c ++ cs.flatMap (Push.ofChunk lane false) =
        (c :: cs).flatMap (Push.ofChunk lane true)
      rw [List.flatMap_cons, List.flatMap_congr hlater]

namespace Scheduler

def offerAll (s : Scheduler) : List Offer → Scheduler × List Push
  | [] => (s, [])
  | o :: os =>
      let (next, pushes) := s.offer o
      let (last, rest) := next.offerAll os
      (last, pushes ++ rest)

inductive Begun (policy : PushPolicy) (lane : Lane) : Scheduler → Prop
  | fresh : Begun policy lane ((ofPolicy policy).begin lane)
  | again (ended : Scheduler) (sri : Sri) (hostClock : Timestamp) :
      Begun policy lane (((ended.finish sri hostClock).1.setPolicy policy).begin lane)

def batchOf (lane : Lane) : List Kept → Option Batch
  | [] => none
  | k :: ks => some (ks.foldl (fun b k => b.add k.offer false)
      (.ofOffer lane k.offer k.announces))

theorem batchOf_append (lane : Lane) (c : List Kept) (k : Kept) :
    batchOf lane (c ++ [k]) = some (match batchOf lane c with
      | none => .ofOffer lane k.offer k.announces
      | some b => b.add k.offer false) := by
  cases c with
  | nil => rfl
  | cons a c => simp [batchOf]

theorem foldl_add (b : Batch) (ks : List Kept) :
    ks.foldl (fun b k => b.add k.offer false) b =
      { samples := ks.foldl (fun b k => b.extend k.offer.payload k.offer.order) b.samples
        frames := b.frames + ks.length
        start := b.start
        sri := (ks.getLast?.map fun k => k.offer.sri).getD b.sri
        sriChanged := b.sriChanged } := by
  induction ks generalizing b with
  | nil => rfl
  | cons k ks ih =>
      rw [List.foldl_cons, ih]
      simp only [Batch.add, List.foldl_cons, List.length_cons, Bool.or_false, List.getLast?_cons,
        Option.map_some, Option.getD_some, Batch.mk.injEq, true_and, and_true]
      refine ⟨by omega, ?_⟩
      cases ks.getLast? <;> rfl

theorem foldl_extend (lane : Lane) (ks : List Kept) :
    ks.foldl (fun b k => b.extend k.offer.payload k.offer.order) (SampleBuffer.empty lane) =
      SampleBuffer.ofSamples lane
        (ks.flatMap fun k => Sample.decode lane k.offer.order k.offer.payload) := by
  have hfold : ∀ b : SampleBuffer,
      ks.foldl (fun b k => b.extend k.offer.payload k.offer.order) b =
        SampleBuffer.ofSamples b.lane (b.samples ++
          ks.flatMap fun k => Sample.decode b.lane k.offer.order k.offer.payload) := by
    induction ks with
    | nil => simp [SampleBuffer.ofSamples_samples]
    | cons k ks ih =>
        intro b
        rw [List.foldl_cons, ih, SampleBuffer.lane_extend, SampleBuffer.samples_extend,
          List.flatMap_cons, List.append_assoc]
  rw [hfold, SampleBuffer.lane_empty, SampleBuffer.samples_empty, List.nil_append]

theorem frames_batchOf {lane : Lane} {c : List Kept} {b : Batch} (h : batchOf lane c = some b) :
    b.frames = c.length := by
  cases c with
  | nil => cases h
  | cons k ks =>
      rw [batchOf, Option.some.injEq, foldl_add] at h
      rw [← h, List.length_cons]
      exact Nat.add_comm 1 ks.length

theorem toPush_batchOf (lane : Lane) (c : List Kept) :
    (batchOf lane c).toList.map Batch.toPush = Push.ofChunk lane true c := by
  cases c with
  | nil => rfl
  | cons k ks =>
      have hlast : ((k :: ks).getLast (List.cons_ne_nil k ks)).offer.sri =
          (ks.getLast?.map fun k => k.offer.sri).getD k.offer.sri := by
        have hsome := List.getLast?_eq_some_getLast (List.cons_ne_nil k ks)
        rw [List.getLast?_cons, Option.some.injEq] at hsome
        rw [← hsome]
        cases ks.getLast? <;> rfl
      simp only [batchOf, foldl_add, Option.toList_some, List.map_cons, List.map_nil,
        Batch.toPush, Batch.ofOffer, Push.ofChunk, hlast, ← foldl_extend, List.foldl_cons,
        List.length_cons, Bool.true_and, Nat.add_comm 1]

/-- The scheduler has the chunk `c` open and has withheld the frames `w` since. -/
structure Holds (policy : PushPolicy) (lane : Lane) (c : List Kept) (w : List Offer)
    (s : Scheduler) : Prop where
  policy_eq : s.policy = policy
  lane_eq : s.lane = some lane
  state_eq : s.state = .accumulating
  batch_eq : s.batch = batchOf lane c
  pending_eq : s.sriPending = w.any fun o => o.sriChanged
  last_eq : ∀ k ∈ c.getLast?, s.lastValid = some k.offer.timeValid
  kept : ∀ k ∈ c.getLast?, policy.withholds k.offer.timeValid = false
  closed : w ≠ [] → c = []

section Step
variable {policy : PushPolicy} {lane : Lane} {c : List Kept} {w : List Offer} {s : Scheduler}
  {o : Offer}

theorem Holds.offer_eq_take (h : Holds policy lane c w s) (o : Offer) :
    s.offer o = s.take lane o := by
  simp only [offer, h.lane_eq, h.state_eq]

/-- A frame to be withheld after a kept one falls from a valid tag to an invalid one. -/
theorem Holds.cutsBefore_withheld (h : Holds policy lane c w s) (hc : c ≠ [])
    (ho : policy.withholds o.timeValid = true) : s.cutsBefore o = true := by
  have hlast := h.last_eq _ (List.getLast?_eq_some_getLast hc)
  have hkept := h.kept _ (List.getLast?_eq_some_getLast hc)
  simp only [PushPolicy.withholds, Bool.and_eq_true, Bool.not_eq_true'] at ho
  simp only [PushPolicy.withholds, ho.1, Bool.true_and, Bool.not_eq_false'] at hkept
  simp [cutsBefore, edgeAt, hlast, hkept, ho, h.policy_eq, PushPolicy.cutsAt]

/-- A frame that is kept closes the open chunk exactly when it does not belong to it. -/
theorem Holds.cutsBefore_kept (h : Holds policy lane c w s) (hc : c ≠ [])
    (ho : policy.withholds o.timeValid = false) :
    s.cutsBefore o = !policy.joins (c.getLast hc) ⟨w, o⟩ := by
  have hlast := h.last_eq _ (List.getLast?_eq_some_getLast hc)
  have hkept := h.kept _ (List.getLast?_eq_some_getLast hc)
  have hw : w = [] := by
    by_contra hne
    exact hc (h.closed hne)
  subst hw
  simp only [cutsBefore, edgeAt, hlast, h.policy_eq, PushPolicy.joins,
    PushPolicy.cutsAt, Kept.announces, Kept.leaves, Kept.stretch, List.nil_append, List.any_cons,
    List.any_nil, Bool.or_false, Bool.not_not]
  rw [PushPolicy.withholds] at ho hkept
  generalize (c.getLast hc).offer.timeValid = v at hkept ⊢
  cases hv : v <;> cases ho' : o.timeValid <;> cases hp : policy.withholdInvalid <;> simp_all

theorem Holds.flush_pushes (h : Holds policy lane c w s) :
    s.flush.2 = Push.ofChunk lane true c := by
  rw [Scheduler.flush_pushes, h.batch_eq, toPush_batchOf]

/-- The first frame withheld closes the open chunk, and later ones find none. -/
theorem Holds.take_withheld (h : Holds policy lane c w s)
    (ho : policy.withholds o.timeValid = true) :
    Holds policy lane [] (w ++ [o]) (s.take lane o).1 ∧
      (s.take lane o).2 = Push.ofChunk lane true c := by
  have hbatch : (s.opened o).1.batch = none := by
    rw [opened_batch]
    by_cases hc : c = []
    · simp [h.batch_eq, hc, batchOf]
    · rw [h.cutsBefore_withheld hc ho, if_pos rfl]
  have hpushes : (s.opened o).2 = Push.ofChunk lane true c := by
    rw [opened_pushes, h.batch_eq, toPush_batchOf]
    by_cases hc : c = []
    · simp [hc, Push.ofChunk]
    · rw [h.cutsBefore_withheld hc ho, if_pos rfl]
  rw [Scheduler.take_withheld s lane o (by rw [h.policy_eq]; exact ho)]
  refine ⟨?_, hpushes⟩
  exact
    { policy_eq := by simpa [withhold] using h.policy_eq
      lane_eq := by simpa [withhold] using h.lane_eq
      state_eq := by simpa [withhold] using h.state_eq
      batch_eq := hbatch
      pending_eq := by simp [withhold, h.pending_eq]
      last_eq := by simp
      kept := by simp
      closed := fun _ => rfl }

/-- A kept frame tells itself apart from the open chunk. -/
def breaksOff (policy : PushPolicy) (c : List Kept) (k : Kept) : Bool :=
  c.getLast?.any fun b => !policy.joins b k

/-- The open chunk with one more kept frame, or the chunk that this frame opens. -/
def extended (policy : PushPolicy) (c : List Kept) (k : Kept) : List Kept :=
  if breaksOff policy c k then [k] else c ++ [k]

theorem segment_cons (policy : PushPolicy) (n : Nat) (c : List Kept) (k : Kept)
    (l : List Kept) :
    segment policy.joins n c (k :: l) = (if breaksOff policy c k then [c] else []) ++
      if n ≤ (extended policy c k).length then
        extended policy c k :: segment policy.joins n [] l
      else segment policy.joins n (extended policy c k) l := rfl

theorem getLast?_extended (policy : PushPolicy) (c : List Kept) (k : Kept) :
    (extended policy c k).getLast? = some k := by
  cases hb : breaksOff policy c k <;> simp [extended, hb]

theorem announces_of_joins {k : Kept} (hc : c ≠ []) (hb : breaksOff policy c k = false) :
    k.announces = false := by
  have hjoin : breaksOff policy c k = !policy.joins (c.getLast hc) k := by
    simp [breaksOff, List.getLast?_eq_some_getLast hc]
  rw [hb, PushPolicy.joins, Bool.not_not] at hjoin
  exact (Bool.or_eq_false_iff.mp hjoin.symm).1

theorem Holds.opened_kept (h : Holds policy lane c w s)
    (ho : policy.withholds o.timeValid = false) :
    (s.opened o).1.batch = (if breaksOff policy c ⟨w, o⟩ then none else batchOf lane c) ∧
      (s.opened o).2 = if breaksOff policy c ⟨w, o⟩ then Push.ofChunk lane true c else [] := by
  rw [opened_batch, opened_pushes, h.batch_eq, toPush_batchOf]
  by_cases hc : c = []
  · simp [hc, batchOf, Push.ofChunk]
  · have hbreaks : s.cutsBefore o = breaksOff policy c ⟨w, o⟩ := by
      rw [h.cutsBefore_kept hc ho]
      simp [breaksOff, List.getLast?_eq_some_getLast hc]
    rw [hbreaks]
    exact ⟨rfl, rfl⟩

theorem Holds.append_kept (h : Holds policy lane c w s)
    (ho : policy.withholds o.timeValid = false) :
    ((s.opened o).1.append lane o).batch = batchOf lane (extended policy c ⟨w, o⟩) := by
  have hchanged : (s.sriPending || o.sriChanged) = Kept.announces ⟨w, o⟩ := by
    simp [h.pending_eq, Kept.announces, Kept.stretch]
  simp only [append, (h.opened_kept ho).1, opened_sriPending, hchanged, extended]
  cases hb : breaksOff policy c ⟨w, o⟩ with
  | true => simp [batchOf]
  | false =>
      simp only [Bool.false_eq_true, if_false, batchOf_append]
      cases hbatch : batchOf lane c with
      | none => rfl
      | some b =>
          have hc : c ≠ [] := by
            rintro rfl
            cases hbatch
          rw [announces_of_joins hc hb]

theorem Holds.full_kept (h : Holds policy lane c w s)
    (ho : policy.withholds o.timeValid = false) :
    ((s.opened o).1.append lane o).full =
      decide (policy.batchLimit ≤ (extended policy c ⟨w, o⟩).length) := by
  have hjoined := h.append_kept ho
  have hpolicy : ((s.opened o).1.append lane o).policy = policy := by
    simpa [append] using h.policy_eq
  cases hb : batchOf lane (extended policy c ⟨w, o⟩) with
  | none => simp [append, hb] at hjoined
  | some b => simp only [full, hjoined, hb, hpolicy, frames_batchOf hb]

/-- A kept frame closes the open chunk or joins it, and may fill the one it comes into. -/
theorem Holds.take_kept (h : Holds policy lane c w s)
    (ho : policy.withholds o.timeValid = false) :
    let breaks := breaksOff policy c ⟨w, o⟩
    let next := extended policy c ⟨w, o⟩
    Holds policy lane (if policy.batchLimit ≤ next.length then [] else next) []
        (s.take lane o).1 ∧
      (s.take lane o).2 = (if breaks then Push.ofChunk lane true c else []) ++
        if policy.batchLimit ≤ next.length then Push.ofChunk lane true next else [] := by
  intro breaks next
  have hjoined : ((s.opened o).1.append lane o).batch = batchOf lane next := h.append_kept ho
  have hlast : next.getLast? = some ⟨w, o⟩ := getLast?_extended policy c ⟨w, o⟩
  rw [Scheduler.take_kept s lane o (by rw [h.policy_eq]; exact ho), (h.opened_kept ho).2,
    h.full_kept ho]
  by_cases hle : policy.batchLimit ≤ next.length
  · rw [if_pos hle, if_pos hle, decide_eq_true hle]
    constructor
    · exact
        { policy_eq := by simpa [append] using h.policy_eq
          lane_eq := by simpa [append] using h.lane_eq
          state_eq := by simpa [append] using h.state_eq
          batch_eq := by simp [flushIf, batchOf]
          pending_eq := by simp [append]
          last_eq := by simp
          kept := by simp
          closed := by simp }
    · simp only [flushIf, if_true, Scheduler.flush_pushes, hjoined, toPush_batchOf, breaks]
  · rw [if_neg hle, if_neg hle, decide_eq_false hle]
    constructor
    · exact
        { policy_eq := by simpa [append, flushIf] using h.policy_eq
          lane_eq := by simpa [append, flushIf] using h.lane_eq
          state_eq := by simpa [append, flushIf] using h.state_eq
          batch_eq := hjoined
          pending_eq := by simp [append, flushIf]
          last_eq := by simp [append, flushIf, hlast]
          kept := by simpa [hlast] using ho
          closed := by simp }
    · rfl

end Step

/-- The frames still to come withhold at least what has been withheld so far. -/
theorem prefix_withheld_keep (policy : PushPolicy) (w offers : List Offer) :
    ∀ k ∈ (policy.keep w offers).head?, w <+: k.withheld := by
  induction offers generalizing w with
  | nil => simp [PushPolicy.keep]
  | cons o os ih =>
      intro k hk
      rw [PushPolicy.keep] at hk
      split at hk
      · exact (List.prefix_append w [o]).trans (ih (w ++ [o]) k hk)
      · rw [List.head?_cons, Option.mem_some_iff] at hk
        exact hk ▸ List.prefix_refl w

theorem segment_of_breaks {α : Type*} {joined : α → α → Bool} {n : Nat} {c : List α}
    (hc : c ≠ []) {l : List α} (h : ∀ a ∈ l.head?, joined (c.getLast hc) a = false) :
    segment joined n c l = c :: segment joined n [] l := by
  cases l with
  | nil => simp [segment, hc]
  | cons a l =>
      have hbreak : joined (c.getLast hc) a = false := h a rfl
      simp [segment, List.getLast?_eq_some_getLast hc, hbreak]

/-- Whatever is kept next after a withheld frame does not belong to the chunk before it. -/
theorem Holds.joins_withheld {policy : PushPolicy} {lane : Lane} {c : List Kept}
    {w : List Offer} {s : Scheduler} {o : Offer} (h : Holds policy lane c w s) (hc : c ≠ [])
    (ho : policy.withholds o.timeValid = true) (offers : List Offer) :
    ∀ k ∈ (policy.keep (w ++ [o]) offers).head?, policy.joins (c.getLast hc) k = false := by
  intro k hk
  have hkept := h.kept _ (List.getLast?_eq_some_getLast hc)
  simp only [PushPolicy.withholds, Bool.and_eq_true, Bool.not_eq_true'] at ho
  simp only [PushPolicy.withholds, ho.1, Bool.true_and, Bool.not_eq_false'] at hkept
  have hmem : o ∈ k.stretch := by
    have hpre := (prefix_withheld_keep policy (w ++ [o]) offers k hk).subset
    exact List.mem_append_left _ (hpre (by simp))
  have hleaves : k.leaves (c.getLast hc).offer.timeValid = true :=
    List.any_eq_true.mpr ⟨o, hmem, by simp [hkept, ho.2]⟩
  simp [PushPolicy.joins, ho.1, hleaves]

/-- From an open chunk on, the pushes up to the last flush are those of one pass. -/
theorem offerAll_flush {policy : PushPolicy} {lane : Lane} {c : List Kept} {w : List Offer}
    {s : Scheduler} (h : Holds policy lane c w s) (offers : List Offer) :
    (s.offerAll offers).2 ++ (s.offerAll offers).1.flush.2 =
      (segment policy.joins policy.batchLimit c (policy.keep w offers)).flatMap
        (Push.ofChunk lane true) := by
  induction offers generalizing c w s with
  | nil =>
      simp only [offerAll, List.nil_append, h.flush_pushes, PushPolicy.keep, segment]
      cases c <;> simp [Push.ofChunk]
  | cons o os ih =>
      simp only [offerAll, h.offer_eq_take o, List.append_assoc]
      cases ho : policy.withholds o.timeValid with
      | true =>
          obtain ⟨hnext, hpushes⟩ := h.take_withheld ho
          have hkeep : policy.keep w (o :: os) = policy.keep (w ++ [o]) os := by
            simp [PushPolicy.keep_cons, ho]
          rw [ih hnext, hpushes, hkeep]
          by_cases hc : c = []
          · simp [hc, Push.ofChunk]
          · rw [segment_of_breaks hc (h.joins_withheld hc ho os), List.flatMap_cons]
      | false =>
          obtain ⟨hnext, hpushes⟩ := h.take_kept ho
          have hkeep : policy.keep w (o :: os) = ⟨w, o⟩ :: policy.keep [] os := by
            simp [PushPolicy.keep_cons, ho]
          rw [ih hnext, hpushes, hkeep, segment_cons, List.flatMap_append, List.append_assoc]
          congr 1
          · split_ifs <;> simp
          · split_ifs <;> simp

theorem Begun.holds {policy : PushPolicy} {lane : Lane} {s : Scheduler}
    (h : Begun policy lane s) : Holds policy lane [] [] s := by
  cases h with
  | fresh =>
      exact
        { policy_eq := rfl, lane_eq := rfl, state_eq := rfl, batch_eq := rfl, pending_eq := rfl
          last_eq := by simp, kept := by simp, closed := fun _ => rfl }
  | again ended sri hostClock =>
      exact
        { policy_eq := rfl, lane_eq := rfl, state_eq := rfl
          batch_eq := by simp [finish, setPolicy, begin, batchOf]
          pending_eq := rfl, last_eq := by simp, kept := by simp, closed := fun _ => rfl }

/-- A scheduler that begins afresh, is offered frames and finishes hands on the pushes that
its policy asks for, and an end mark. -/
theorem offerAll_finish_pushes {policy : PushPolicy} {lane : Lane} {s : Scheduler}
    (hframes : 1 ≤ policy.framesPerPush) (hbegun : Begun policy lane s) (offers : List Offer)
    (sri : Sri) (hostClock : Timestamp) :
    ∃ ending : Push, ending.endOfStream = true ∧
      (s.offerAll offers).2 ++ ((s.offerAll offers).1.finish sri hostClock).2 =
        policy.pushes lane offers ++ [ending] := by
  have hlimit : 0 < policy.chunkSize := PushPolicy.chunkSize_pos hframes
  have hflushed := offerAll_flush hbegun.holds offers
  rw [PushPolicy.batchLimit_eq_chunkSize, segment_eq hlimit _ List.isChain_nil hlimit,
    List.nil_append, List.flatMap_assoc] at hflushed
  have hgroups : policy.pushes lane offers = ((policy.keep [] offers).splitBy policy.joins).flatMap
      fun g => (chunks policy.chunkSize g).flatMap (Push.ofChunk lane true) :=
    List.flatMap_congr fun g hg => PushPolicy.ofGroup_eq (List.isChain_of_mem_splitBy hg) lane _
  refine ⟨(s.offerAll offers).1.endMark sri hostClock, rfl, ?_⟩
  rw [finish_pushes, ← List.append_assoc, hflushed, hgroups]

/-- Eight frames, of which the second and fifth are withheld. The third and the fifth announce a
change, and two frames to a push are the most. -/
theorem offerAll_finish_pushes_withheld :
    let policy : PushPolicy := ⟨1, false, true⟩
    let time : Float → Timestamp := .ofHostClock 0.0
    let offers : List Offer :=
      [⟨[1, 2], .little, true, time 1.0, .ofStream "a", true⟩,
        ⟨[3, 4], .little, false, time 2.0, .ofStream "a", false⟩,
        ⟨[5, 6], .little, true, time 3.0, .ofStream "b", true⟩,
        ⟨[7, 8], .big, true, time 4.0, .ofStream "b", false⟩,
        ⟨[9, 10], .big, false, time 5.0, .ofStream "c", true⟩,
        ⟨[11, 12], .big, true, time 6.0, .ofStream "c", false⟩,
        ⟨[13, 14], .big, true, time 7.0, .ofStream "c", false⟩,
        ⟨[15, 16], .big, true, time 8.0, .ofStream "c", false⟩]
    let s := (Scheduler.ofPolicy policy).begin .short
    1 ≤ policy.framesPerPush ∧ Begun policy .short s ∧
      ∃ ending : Push, ending.endOfStream = true ∧
        (s.offerAll offers).2 ++
            ((s.offerAll offers).1.finish (.ofStream "d") (.ofHostClock 1.0 0.0)).2 =
          [⟨.short #[0x0201], time 1.0, .ofStream "a", true, false, 1⟩,
            ⟨.short #[0x0605, 0x0708], time 3.0, .ofStream "b", true, false, 2⟩,
            ⟨.short #[0x0b0c, 0x0d0e], time 6.0, .ofStream "c", true, false, 2⟩,
            ⟨.short #[0x0f10], time 8.0, .ofStream "c", false, false, 1⟩, ending] := by
  intro policy time offers s
  have hframes : 1 ≤ policy.framesPerPush := by decide
  have hbegun : Begun policy .short s := .fresh
  obtain ⟨ending, hending, hpushes⟩ :=
    offerAll_finish_pushes hframes hbegun offers (.ofStream "d") (.ofHostClock 1.0 0.0)
  have hgroups : policy.groups offers =
      [[⟨[], offers[0]⟩], [⟨[offers[1]], offers[2]⟩, ⟨[], offers[3]⟩],
        [⟨[offers[4]], offers[5]⟩, ⟨[], offers[6]⟩, ⟨[], offers[7]⟩]] := rfl
  have hlong : ∀ a b c : Kept, chunks 2 [a, b, c] = [[a, b], [c]] := by
    intro a b c
    have hfull : [a, b].length = 2 := rfl
    have hshort : chunks 2 [c] = [[c]] := chunks_of_length_le (by simp) (by simp)
    rw [← hshort]
    exact chunks_append (by decide) hfull [c]
  have hdecode : ∀ order a b, Sample.decode .short order [a, b] =
      [.short (UInt16.ofNat (order.read [a, b])).toInt16] := by
    intro order a b
    have hrun : ∀ run ∈ [[a, b]], run.length = Lane.short.byteWidth := by simp [Lane.byteWidth]
    exact Sample.decode_flatten hrun order
  refine ⟨hframes, hbegun, ending, hending, hpushes.trans ?_⟩
  rw [PushPolicy.pushes, hgroups]
  simp [PushPolicy.chunkSize, policy, Push.ofGroup, chunks_of_length_le, hlong, Push.ofChunk,
    offers, hdecode, SampleBuffer.ofSamples, Kept.announces, Kept.stretch, ByteOrder.read,
    Bytes.bigToNat, Bytes.littleToNat]

end Scheduler

end SddsReceiver
