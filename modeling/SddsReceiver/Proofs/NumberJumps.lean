import SddsReceiver.Proofs.FrameLoss

/-!
# Every jump is reported

The tracker sees nothing but numbers, and they need not come from a sender that counts: a number
may be repeated, fall back, or be one that is set aside for parity. Whatever they are, the count
before an arrival is its distance from the successor of the number before, so it is zero exactly
where the two follow each other. Added up, the distances lead from the first number to the last:
each arrival accounts for one step, a reserved number that is stepped over for another, and the
counts for the rest.
-/
namespace SddsReceiver

namespace SequenceNumber

/-- How far a number is from the one that was due after the number before it. -/
def jump (previous n : UInt16) : UInt16 := n - successor previous

theorem jump_eq_zero_iff {previous n : UInt16} : jump previous n = 0 ↔ Follows previous n := by
  rw [jump, Follows, UInt16.sub_eq_iff_eq_add, UInt16.zero_add]

def jumps (ns : List UInt16) : List UInt16 := List.zipWith jump ns ns.tail

theorem jumps_cons_cons (p n : UInt16) (ns : List UInt16) :
    jumps (p :: n :: ns) = jump p n :: jumps (n :: ns) := rfl

theorem jumps_eq_zero_iff {ns : List UInt16} :
    (∀ j ∈ jumps ns, j = 0) ↔ ns.IsChain Follows := by
  induction ns with
  | nil => simp [jumps]
  | cons p rest ih =>
      cases rest with
      | nil => simp [jumps]
      | cons n ns =>
          rw [jumps_cons_cons, List.forall_mem_cons, jump_eq_zero_iff, ih, List.isChain_cons_cons]

theorem isParitySlot_add_one (n : UInt16) : isParitySlot (n + 1) = (n % 32 == 30) := by
  rw [Bool.eq_iff_iff, isParitySlot_add_one_iff, beq_iff_eq, ← UInt16.toNat_inj, UInt16.toNat_mod]
  rfl

theorem reservedAfter_eq_countP (ns : List UInt16) :
    reservedAfter ns = ns.countP fun n => n % 32 == 30 := by
  rw [reservedAfter]
  congr 1
  funext n
  exact isParitySlot_add_one n

theorem reservedAfter_cons (n : UInt16) (ns : List UInt16) :
    reservedAfter (n :: ns) = reservedAfter [n] + reservedAfter ns := by
  rw [reservedAfter, ← List.singleton_append, List.countP_append]
  rfl

theorem successor_eq_add (n : UInt16) :
    successor n = n + UInt16.ofNat (1 + reservedAfter [n]) := by
  rw [reservedAfter, List.countP_singleton, successor]
  split <;> rfl

theorem add_eq_add_jump (p n : UInt16) (k : Nat) : n + UInt16.ofNat k =
    p + UInt16.ofNat (1 + reservedAfter [p] + (jump p n).toNat + k) := by
  rw [UInt16.ofNat_add _ k, UInt16.ofNat_add _ (jump p n).toNat, ← UInt16.add_assoc,
    ← UInt16.add_assoc, ← successor_eq_add, UInt16.ofNat_toNat, jump, UInt16.add_comm (successor p),
    UInt16.sub_add_cancel]

theorem getLast?_eq_add_jumps (first : UInt16) (rest : List UInt16) :
    (first :: rest).getLast? = some (first + UInt16.ofNat
      (((jumps (first :: rest)).map UInt16.toNat).sum + rest.length +
        reservedAfter (first :: rest).dropLast)) := by
  induction rest generalizing first with
  | nil => exact congrArg some (UInt16.add_zero first).symm
  | cons n rest ih =>
      rw [List.getLast?_cons_cons, ih, List.dropLast_cons_cons, reservedAfter_cons,
        jumps_cons_cons, List.map_cons, List.sum_cons, List.length_cons, add_eq_add_jump first n]
      congr 3
      omega

end SequenceNumber

namespace SequenceTracker
open SequenceNumber

theorem acceptAll_counts_jumps {t : SequenceTracker} {p : UInt16}
    (ht : t.expected = some (successor p)) (ns : List UInt16) :
    (t.acceptAll ns).2 = jumps (p :: ns) := by
  induction ns generalizing t p with
  | nil => rfl
  | cons n ns ih =>
      have hfirst : t.missingBefore n = jump p n := by rw [missingBefore, ht, jump]
      rw [acceptAll_cons, jumps_cons_cons, hfirst, ih rfl]

theorem acceptAll_length (t : SequenceTracker) (ns : List UInt16) :
    (t.acceptAll ns).2.length = ns.length := by
  induction ns generalizing t with
  | nil => rfl
  | cons n ns ih => rw [acceptAll_cons, List.length_cons, List.length_cons, ih]

theorem acceptAll_droppedTotal (t : SequenceTracker) (ns : List UInt16) :
    (t.acceptAll ns).1.droppedTotal =
      t.droppedTotal + ((t.acceptAll ns).2.map UInt16.toNat).sum := by
  induction ns generalizing t with
  | nil => rfl
  | cons n ns ih =>
      rw [acceptAll_cons, ih, accept_droppedTotal, List.map_cons, List.sum_cons, Nat.add_assoc]

theorem acceptAll_expected (t : SequenceTracker) (ns : List UInt16) :
    (t.acceptAll ns).1.expected = (ns.getLast?.map successor).or t.expected := by
  induction ns generalizing t with
  | nil => rfl
  | cons n ns ih =>
      have hseen : (t.accept n).1.expected = some (successor n) := rfl
      rw [acceptAll_cons, ih, hseen, List.getLast?_cons]
      cases ns.getLast? <;> rfl

/-! ## A fresh tracker -/

theorem initial_acceptAll_cons (first : UInt16) (rest : List UInt16) :
    (initial.acceptAll (first :: rest)).2 = 0 :: jumps (first :: rest) := by
  have hseed : initial.missingBefore first = 0 := rfl
  rw [acceptAll_cons, hseed, acceptAll_counts_jumps rfl]

theorem initial_acceptAll_getElem? {ns : List UInt16} {i : Nat} (hi : i < ns.length) :
    (initial.acceptAll ns).2[i]? = some 0 ↔ i = 0 ∨ ns[i] = successor ns[i - 1] := by
  cases ns with
  | nil => cases hi
  | cons first rest =>
      rw [initial_acceptAll_cons]
      cases i with
      | zero => simp
      | succ i =>
          have hrest : i < rest.length := Nat.lt_of_succ_lt_succ hi
          have hjump : i < (List.zipWith jump (first :: rest) rest).length := by
            rw [List.length_zipWith, List.length_cons]
            omega
          have hpair : (jumps (first :: rest))[i]? = some (jump (first :: rest)[i] rest[i]) := by
            rw [jumps, List.tail_cons, List.getElem?_eq_getElem hjump, List.getElem_zipWith]
          have hlater : i + 1 ≠ 0 := i.succ_ne_zero
          rw [List.getElem?_cons_succ, hpair, Option.some.injEq, jump_eq_zero_iff]
          exact (or_iff_right hlater).symm

theorem initial_acceptAll_droppedTotal (ns : List UInt16) :
    (initial.acceptAll ns).1.droppedTotal = ((initial.acceptAll ns).2.map UInt16.toNat).sum :=
  (acceptAll_droppedTotal initial ns).trans (Nat.zero_add _)

theorem initial_droppedTotal_eq_zero_iff (ns : List UInt16) :
    (initial.acceptAll ns).1.droppedTotal = 0 ↔ ns.IsChain Follows := by
  cases ns with
  | nil => exact iff_of_true rfl .nil
  | cons first rest =>
      have hzero : ∀ j : UInt16, j.toNat = 0 ↔ j = 0 := fun j => by
        rw [← UInt16.toNat_inj, UInt16.toNat_zero]
      rw [initial_acceptAll_droppedTotal, initial_acceptAll_cons, ← jumps_eq_zero_iff,
        List.sum_eq_zero_iff_forall_eq_nat, List.forall_mem_map, List.forall_mem_cons]
      simp only [hzero, true_and]

theorem initial_expected (ns : List UInt16) :
    (initial.acceptAll ns).1.expected = ns.getLast?.map successor := by
  rw [acceptAll_expected, initial, Option.or_none]

theorem initial_last_sub_first {ns : List UInt16} {first last : UInt16}
    (hfirst : first ∈ ns.head?) (hlast : last ∈ ns.getLast?) :
    last - first = UInt16.ofNat (((initial.acceptAll ns).2.map UInt16.toNat).sum +
      (ns.length - 1) + reservedAfter ns.dropLast) := by
  cases ns with
  | nil => cases hfirst
  | cons n rest =>
      obtain rfl : n = first := Option.some.inj hfirst
      rw [Option.mem_def, getLast?_eq_add_jumps, Option.some.injEq] at hlast
      rw [initial_acceptAll_cons, List.map_cons, List.sum_cons, ← hlast, UInt16.add_comm,
        UInt16.add_sub_cancel, UInt16.toNat_zero, Nat.zero_add, List.length_cons,
        Nat.add_sub_cancel]

/-- A fresh tracker that is shown any numbers answers each of them, and the answer is zero
exactly for the first and for those that follow the number before. The total is the sum of the
answers, and zero exactly when each number follows the one before. The number due next is that
of a data frame. And from the first number to the last it is, modulo 65536, as far as the answers
add up to, with one step for each later arrival and one for each reserved number right after a
number before the last. -/
theorem acceptAll_reports_jumps (ns : List UInt16) :
    ((initial.acceptAll ns).2.length = ns.length ∧
        ∀ (i : Nat) (hi : i < ns.length),
          (initial.acceptAll ns).2[i]? = some 0 ↔ i = 0 ∨ ns[i] = successor ns[i - 1]) ∧
      ((initial.acceptAll ns).1.droppedTotal =
          ((initial.acceptAll ns).2.map UInt16.toNat).sum ∧
        ((initial.acceptAll ns).1.droppedTotal = 0 ↔ ns.IsChain Follows)) ∧
      ((initial.acceptAll ns).1.expected = ns.getLast?.map successor ∧
        ∀ n ∈ (initial.acceptAll ns).1.expected, isParitySlot n = false) ∧
      ∀ first ∈ ns.head?, ∀ last ∈ ns.getLast?,
        last - first = UInt16.ofNat (((initial.acceptAll ns).2.map UInt16.toNat).sum +
          (ns.length - 1) + ns.dropLast.countP fun n => n % 32 == 30) := by
  refine ⟨⟨acceptAll_length initial ns, fun i hi => initial_acceptAll_getElem? hi⟩,
    ⟨initial_acceptAll_droppedTotal ns, initial_droppedTotal_eq_zero_iff ns⟩,
    ⟨initial_expected ns, ?_⟩, ?_⟩
  · intro n hn
    rw [Option.mem_def, initial_expected] at hn
    obtain ⟨last, -, rfl⟩ := Option.map_eq_some_iff.mp hn
    exact isParitySlot_successor last
  · intro first hfirst last hlast
    rw [← reservedAfter_eq_countP]
    exact initial_last_sub_first hfirst hlast

/-- A reserved number, its successor, a repeat and a number that falls back. -/
example : (initial.acceptAll [31, 32, 32, 30]).2 = [0, 0, 65535, 65533] := rfl

end SequenceTracker

end SddsReceiver
