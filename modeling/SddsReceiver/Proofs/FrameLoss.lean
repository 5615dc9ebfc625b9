import SddsReceiver.SequenceTracker
import Mathlib.Algebra.BigOperators.Group.List.Basic
import Mathlib.Algebra.GroupWithZero.Nat
import Mathlib.Data.List.Chain

/-!
# Counting lost frames

A sender numbers its frames by successors, some frames are lost on the way, and the tracker
sees the rest. What it counts before an arrival is the distance of the arrival from the number
due. That distance is the number of frames lost and, besides, of the reserved numbers that the
gap steps over. So a loss is counted exactly when no lost frame stands right before a reserved
number.

Lost runs stay below one turn of the counter: within a turn, one reserved number follows every
31 frames, and frames and reserved numbers together stay below 65536.
-/
namespace SddsReceiver

namespace SequenceNumber

/-- Frames in one turn of the counter: 65536 numbers, one in 32 of them reserved. -/
def framesPerTurn : Nat := 63488

theorem isParitySlot_iff (n : UInt16) : isParitySlot n = true ↔ n.toNat % 32 = 31 := by
  have h : n % parityInterval = parityInterval - 1 ↔ n.toNat % 32 = 31 := by
    rw [← UInt16.toNat_inj, UInt16.toNat_mod]
    rfl
  rw [isParitySlot, beq_iff_eq, h]

theorem isParitySlot_add_one_iff (n : UInt16) :
    isParitySlot (n + 1) = true ↔ n.toNat % 32 = 30 := by
  have hlt := n.toNat_lt
  rw [isParitySlot_iff, UInt16.toNat_add, UInt16.toNat_one]
  omega

theorem toNat_successor (n : UInt16) :
    (successor n).toNat = (n.toNat + if isParitySlot (n + 1) then 2 else 1) % 65536 := by
  unfold successor
  split <;> rw [UInt16.toNat_add] <;> rfl

theorem isParitySlot_successor (n : UInt16) : isParitySlot (successor n) = false := by
  have hlt := n.toNat_lt
  have hnext := isParitySlot_add_one_iff n
  rw [Bool.eq_false_iff, ne_eq, isParitySlot_iff, toNat_successor]
  split_ifs with h
  · have hn := hnext.mp h
    omega
  · have hn : n.toNat % 32 ≠ 30 := fun hp => h (hnext.mpr hp)
    omega

/-- The second number follows the first on the wire. -/
def Follows (a b : UInt16) : Prop := b = successor a

instance : DecidableRel Follows := fun a b => inferInstanceAs (Decidable (b = successor a))

/-- How many of the frames stand right before a reserved number. -/
def reservedAfter (ns : List UInt16) : Nat := ns.countP fun n => isParitySlot (n + 1)

theorem eq_add_of_isChain {e r : UInt16} {lost : List UInt16}
    (hchain : (lost ++ [r]).IsChain Follows) (hhead : (lost ++ [r]).head? = some e) :
    r = e + UInt16.ofNat (lost.length + reservedAfter lost) := by
  induction lost generalizing e with
  | nil =>
      simp only [List.nil_append, List.head?_cons, Option.some.injEq] at hhead
      simp [hhead, reservedAfter]
  | cons m lost ih =>
      simp only [List.cons_append, List.head?_cons, Option.some.injEq] at hhead
      subst hhead
      rw [List.cons_append, List.isChain_cons] at hchain
      obtain ⟨next, hnext⟩ : ∃ next, (lost ++ [r]).head? = some next :=
        Option.isSome_iff_exists.mp (by simp)
      have hsucc : next = successor m := hchain.1 next hnext
      have hr := ih hchain.2 hnext
      rw [hr, hsucc, ← UInt16.toNat_inj, UInt16.toNat_add, UInt16.toNat_add, toNat_successor,
        UInt16.toNat_ofNat', UInt16.toNat_ofNat', List.length_cons, reservedAfter,
        reservedAfter, List.countP_cons]
      split <;> omega

/-- One reserved number follows every 31 frames, counted from the place of the first. -/
theorem reservedAfter_eq {e r : UInt16} {lost : List UInt16}
    (hchain : (lost ++ [r]).IsChain Follows) (hhead : (lost ++ [r]).head? = some e)
    (he : isParitySlot e = false) :
    reservedAfter lost = (e.toNat % 32 + lost.length) / 31 := by
  induction lost generalizing e with
  | nil =>
      have hslot := (isParitySlot_iff e).not.mp (by simp [he])
      rw [reservedAfter, List.countP_nil, List.length_nil]
      omega
  | cons m lost ih =>
      simp only [List.cons_append, List.head?_cons, Option.some.injEq] at hhead
      subst hhead
      rw [List.cons_append, List.isChain_cons] at hchain
      obtain ⟨next, hnext⟩ : ∃ next, (lost ++ [r]).head? = some next :=
        Option.isSome_iff_exists.mp (by simp)
      have hsucc : next = successor m := hchain.1 next hnext
      have hrest := ih hchain.2 hnext (by rw [hsucc]; exact isParitySlot_successor m)
      have hslot := (isParitySlot_iff m).not.mp (by simp [he])
      have hlt := m.toNat_lt
      have hbefore := isParitySlot_add_one_iff m
      rw [reservedAfter] at hrest
      rw [hsucc, toNat_successor] at hrest
      rw [reservedAfter, List.countP_cons, hrest, List.length_cons]
      split_ifs with h
      · have hm := hbefore.mp h
        omega
      · have hm : m.toNat % 32 ≠ 30 := fun hp => h (hbefore.mpr hp)
        omega

theorem toNat_sub_of_isChain {e r : UInt16} {lost : List UInt16}
    (hchain : (lost ++ [r]).IsChain Follows) (hhead : (lost ++ [r]).head? = some e)
    (he : isParitySlot e = false) (hshort : lost.length < framesPerTurn) :
    (r - e).toNat = lost.length + reservedAfter lost := by
  have hreserved := reservedAfter_eq hchain hhead he
  have hr : (r - e) = UInt16.ofNat (lost.length + reservedAfter lost) := by
    rw [eq_add_of_isChain hchain hhead, UInt16.add_comm, UInt16.add_sub_cancel]
  rw [framesPerTurn] at hshort
  rw [hr, UInt16.toNat_ofNat', Nat.mod_eq_of_lt]
  omega

end SequenceNumber

/-- Frames lost on the way, and the frame that arrives after them. -/
structure Passage where
  lost : List UInt16
  arrived : UInt16
  deriving DecidableEq, Repr

namespace Passage
open SequenceNumber

def sent (first : UInt16) (ps : List Passage) : List UInt16 :=
  first :: ps.flatMap fun p => p.lost ++ [p.arrived]

def received (first : UInt16) (ps : List Passage) : List UInt16 :=
  first :: ps.map Passage.arrived

/-- Frames lost, and reserved numbers right after them. -/
def distance (p : Passage) : Nat := p.lost.length + reservedAfter p.lost

/-- No lost frame of the passages stands right before a reserved number. -/
def KeepsClear (ps : List Passage) : Prop :=
  ∀ p ∈ ps, ∀ n ∈ p.lost, isParitySlot (n + 1) = false

theorem keepsClear_iff {ps : List Passage} :
    KeepsClear ps ↔ ∀ p ∈ ps, reservedAfter p.lost = 0 := by
  simp only [KeepsClear, reservedAfter, List.countP_eq_zero, Bool.not_eq_true]

theorem map_distance_iff {ps : List Passage} :
    ps.map distance = ps.map (fun p => p.lost.length) ↔ KeepsClear ps := by
  rw [List.map_inj_left, keepsClear_iff]
  apply forall₂_congr
  intro p _
  rw [distance, Nat.add_eq_left]

theorem sum_distance_iff {ps : List Passage} :
    (ps.map distance).sum = (ps.map fun p => p.lost.length).sum ↔ KeepsClear ps := by
  have hsplit : (ps.map distance).sum =
      (ps.map fun p => p.lost.length).sum + (ps.map fun p => reservedAfter p.lost).sum :=
    List.sum_map_add
  rw [hsplit, Nat.add_eq_left, List.sum_eq_zero_iff_forall_eq_nat,
    List.forall_mem_map, keepsClear_iff]

end Passage

namespace SequenceTracker
open SequenceNumber

theorem acceptAll_cons (t : SequenceTracker) (n : UInt16) (ns : List UInt16) :
    t.acceptAll (n :: ns) = (((t.accept n).1.acceptAll ns).1,
      t.missingBefore n :: ((t.accept n).1.acceptAll ns).2) := rfl

theorem accept_droppedTotal (t : SequenceTracker) (n : UInt16) :
    (t.accept n).1.droppedTotal = t.droppedTotal + (t.missingBefore n).toNat := rfl

/-- After a frame, the tracker counts the distances of the passages that follow it. -/
theorem acceptAll_passages {t : SequenceTracker} {n : UInt16} (ht : t.expected = some (successor n))
    {ps : List Passage} (hsent : (Passage.sent n ps).IsChain Follows)
    (hshort : ∀ p ∈ ps, p.lost.length < framesPerTurn) :
    (t.acceptAll (ps.map Passage.arrived)).2.map UInt16.toNat = ps.map Passage.distance ∧
      (t.acceptAll (ps.map Passage.arrived)).1.droppedTotal =
        t.droppedTotal + (ps.map Passage.distance).sum := by
  induction ps generalizing t n with
  | nil => exact ⟨rfl, rfl⟩
  | cons p ps ih =>
      -- The number due is the head of what is sent next, lost or not.
      have htail : (p.lost ++ [p.arrived] ++ ps.flatMap fun q => q.lost ++ [q.arrived]).IsChain
          Follows := by
        rw [Passage.sent, List.flatMap_cons, List.isChain_cons] at hsent
        exact hsent.2
      obtain ⟨hrun, hrest, -⟩ := List.isChain_append.mp htail
      have hhead : (p.lost ++ [p.arrived]).head? = some (successor n) := by
        obtain ⟨e, he⟩ : ∃ e, (p.lost ++ [p.arrived]).head? = some e :=
          Option.isSome_iff_exists.mp (by simp)
        rw [Passage.sent, List.flatMap_cons, List.isChain_cons] at hsent
        have hnext : Follows n e := hsent.1 e (by rw [List.head?_append, he]; rfl)
        rw [he, hnext]
      have hdistance : (p.arrived - successor n).toNat = p.distance :=
        toNat_sub_of_isChain hrun hhead (isParitySlot_successor n) (hshort p (by simp))
      have hsentNext : (Passage.sent p.arrived ps).IsChain Follows := by
        have hlast : p.lost ++ [p.arrived] ++ (ps.flatMap fun q => q.lost ++ [q.arrived]) =
            p.lost ++ Passage.sent p.arrived ps := by
          simp [Passage.sent]
        rw [hlast] at htail
        exact (List.isChain_append.mp htail).2.1
      obtain ⟨hmissing, htotal⟩ := ih (t := (t.accept p.arrived).1) rfl hsentNext
        fun q hq => hshort q (List.mem_cons_of_mem p hq)
      have hfirst : (t.missingBefore p.arrived).toNat = p.distance := by
        rw [missingBefore, ht, hdistance]
      rw [List.map_cons, acceptAll_cons, List.map_cons, List.map_cons, List.sum_cons]
      constructor
      · rw [hfirst, hmissing]
      · rw [htotal, accept_droppedTotal, hfirst, Nat.add_assoc]

/-- What a fresh tracker counts for a sender's frames of which some are lost, no run of them
as long as a turn: before each arrival its distance, and in total their sum. The frames lost
are counted exactly, before each arrival and in total alike, if and only if none of them
stands right before a reserved number. -/
theorem acceptAll_counts_lost_iff (first : UInt16) (ps : List Passage)
    (hsent : (Passage.sent first ps).IsChain Follows)
    (hshort : ∀ p ∈ ps, p.lost.length < framesPerTurn) :
    let counted := initial.acceptAll (Passage.received first ps)
    (counted.2.map UInt16.toNat = 0 :: ps.map Passage.distance ∧
        counted.1.droppedTotal = (ps.map Passage.distance).sum) ∧
      (counted.2.map UInt16.toNat = 0 :: ps.map (fun p => p.lost.length) ↔
        Passage.KeepsClear ps) ∧
      (counted.1.droppedTotal = (ps.map fun p => p.lost.length).sum ↔
        Passage.KeepsClear ps) := by
  obtain ⟨hmissing, htotal⟩ :=
    acceptAll_passages (t := (initial.accept first).1) (n := first) rfl hsent hshort
  have htotal : _ = (ps.map Passage.distance).sum := htotal.trans (Nat.zero_add _)
  have hzero : (initial.missingBefore first).toNat = 0 := rfl
  rw [Passage.received, acceptAll_cons]
  refine ⟨⟨?_, htotal⟩, ?_, ?_⟩
  · rw [List.map_cons, hzero, hmissing]
  · rw [List.map_cons, hzero, hmissing, List.cons.injEq, eq_self, true_and,
      Passage.map_distance_iff]
  · rw [htotal, Passage.sum_distance_iff]

/-- Three frames lost around the wrap, none of them right before a reserved number. -/
theorem acceptAll_counts_lost_across_wrap :
    let ps : List Passage := [⟨[65533], 65534⟩, ⟨[0, 1], 2⟩]
    ((Passage.sent 65532 ps).IsChain Follows ∧ ∀ p ∈ ps, p.lost.length < framesPerTurn) ∧
      (initial.acceptAll (Passage.received 65532 ps)).1.droppedTotal = 3 := by
  intro ps
  have hsent : (Passage.sent 65532 ps).IsChain Follows := by decide
  have hshort : ∀ p ∈ ps, p.lost.length < framesPerTurn := by decide
  have hclear : Passage.KeepsClear ps := Passage.keepsClear_iff.mpr (by decide)
  exact ⟨⟨hsent, hshort⟩, (acceptAll_counts_lost_iff 65532 ps hsent hshort).2.2.mpr hclear⟩

/-- One frame lost right before a reserved number is counted as two. -/
theorem acceptAll_counts_reserved :
    ¬ ∀ (first : UInt16) (ps : List Passage), (Passage.sent first ps).IsChain Follows →
      (∀ p ∈ ps, p.lost.length < framesPerTurn) →
      (initial.acceptAll (Passage.received first ps)).1.droppedTotal =
        (ps.map fun p => p.lost.length).sum := by
  intro hexact
  have hone := hexact 29 [⟨[30], 32⟩] (by decide) (by decide)
  have htwo : (initial.acceptAll (Passage.received 29 [⟨[30], 32⟩])).1.droppedTotal = 2 := rfl
  rw [htwo] at hone
  exact absurd hone (by decide)

end SequenceTracker

end SddsReceiver
