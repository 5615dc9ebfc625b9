import Mathlib.Data.List.SplitBy

/-!
# Cutting a list at breaks and by size

A list is first split into groups, wherever two neighbours do not belong together, and each
group is then chopped from its start into chunks of a given size. The same chunks come out
of one pass that keeps a single open chunk, closes it before a neighbour that does not belong
and after the element that fills it.
-/
namespace SddsReceiver

variable {α : Type*}

/-- Chop a list from its start; only the last chunk may be shorter. -/
def chunks (n : Nat) (l : List α) : List (List α) :=
  if 0 < n ∧ n < l.length then l.take n :: chunks n (l.drop n)
  else if l.isEmpty then [] else [l]
termination_by l.length
decreasing_by simp only [List.length_drop]; omega

@[simp] theorem chunks_nil (n : Nat) : chunks n ([] : List α) = [] := by
  rw [chunks]
  simp

theorem chunks_of_length_le {n : Nat} {l : List α} (hl : l ≠ []) (h : l.length ≤ n) :
    chunks n l = [l] := by
  rw [chunks, if_neg (by omega)]
  simp [hl]

theorem chunks_append {n : Nat} {c : List α} (hn : 0 < n) (hc : c.length = n) (l : List α) :
    chunks n (c ++ l) = c :: chunks n l := by
  have hne : c ≠ [] := List.ne_nil_of_length_pos (by omega)
  cases l with
  | nil => rw [List.append_nil, chunks_of_length_le hne (by omega), chunks_nil]
  | cons a l =>
      have hlong : n < (c ++ a :: l).length := by
        rw [List.length_append, List.length_cons]
        omega
      rw [chunks, if_pos ⟨hn, hlong⟩, List.take_left' hc, List.drop_left' hc]

theorem flatten_chunks (n : Nat) (l : List α) : (chunks n l).flatten = l := by
  induction l using chunks.induct n with
  | case1 l h ih => rw [chunks, if_pos h, List.flatten_cons, ih, List.take_append_drop]
  | case2 l h hl =>
      have hnil : l = [] := List.isEmpty_iff.mp hl
      rw [hnil, chunks_nil, List.flatten_nil]
  | case3 l h hl => rw [chunks, if_neg h, if_neg hl, List.flatten_singleton]

theorem ne_nil_of_mem_chunks {n : Nat} {l c : List α} (hc : c ∈ chunks n l) : c ≠ [] := by
  induction l using chunks.induct n with
  | case1 l h ih =>
      rw [chunks, if_pos h] at hc
      rcases List.mem_cons.mp hc with rfl | hc
      · exact List.ne_nil_of_length_pos (by rw [List.length_take]; omega)
      · exact ih hc
  | case2 l h hl =>
      rw [chunks, if_neg h, if_pos hl] at hc
      cases hc
  | case3 l h hl =>
      rw [chunks, if_neg h, if_neg hl, List.mem_singleton] at hc
      rwa [hc, ne_eq, ← List.isEmpty_iff]

/-- Cut a list in one pass: `c` is the open chunk. -/
def segment (joined : α → α → Bool) (n : Nat) : List α → List α → List (List α)
  | c, [] => if c.isEmpty then [] else [c]
  | c, a :: l =>
      let breaks := c.getLast?.any fun b => !joined b a
      let next := if breaks then [a] else c ++ [a]
      (if breaks then [c] else []) ++
        if n ≤ next.length then next :: segment joined n [] l else segment joined n next l

section Split
variable {joined : α → α → Bool} {n : Nat} {c : List α}

/-- A chain in front of a list whose head belongs to it joins the first group. -/
theorem splitBy_append_of_joined {a : α} {l g : List α} {gs : List (List α)} (hc : c ≠ [])
    (hchain : c.IsChain fun x y => joined x y) (hjoin : joined (c.getLast hc) a)
    (hsplit : (a :: l).splitBy joined = g :: gs) :
    (c ++ a :: l).splitBy joined = (c ++ g) :: gs := by
  obtain ⟨hflat, hnil, hgroups, hbreaks⟩ := List.splitBy_eq_iff.mp hsplit
  have hg : g ≠ [] := fun h => hnil (by simp [h])
  have hhead : g.head? = some a := by
    rw [List.flatten_cons] at hflat
    have hfirst := congrArg List.head? hflat
    rw [List.head?_cons, List.head?_append_of_ne_nil _ hg] at hfirst
    exact hfirst.symm
  refine List.splitBy_eq_iff.mpr ⟨?_, ?_, ?_, ?_⟩
  · rw [List.flatten_cons, List.append_assoc, hflat, List.flatten_cons]
  · intro hmem
    rcases List.mem_cons.mp hmem with h | h
    · exact hc (List.append_eq_nil_iff.mp h.symm).1
    · exact hnil (List.mem_cons_of_mem _ h)
  · intro m hm
    rcases List.mem_cons.mp hm with rfl | hm
    · refine List.isChain_append.mpr ⟨hchain, hgroups g (by simp), ?_⟩
      intro x hx y hy
      rw [List.getLast?_eq_some_getLast hc, Option.mem_some_iff] at hx
      rw [hhead, Option.mem_some_iff] at hy
      rwa [← hx, ← hy]
    · exact hgroups m (List.mem_cons_of_mem _ hm)
  · rw [List.isChain_cons] at hbreaks ⊢
    refine ⟨?_, hbreaks.2⟩
    intro m hm
    obtain ⟨_, hb, hr⟩ := hbreaks.1 m hm
    exact ⟨by simp [hg], hb, by rwa [List.getLast_append_of_ne_nil _ hg]⟩

theorem flatMap_chunks_of_isChain (hc : c ≠ []) (hchain : c.IsChain fun x y => joined x y)
    (hlen : c.length ≤ n) : (c.splitBy joined).flatMap (chunks n) = [c] := by
  rw [List.splitBy_of_isChain hc hchain, List.flatMap_singleton, chunks_of_length_le hc hlen]

/-- A full chunk without a break in it is cut off, whether a break follows or not. -/
theorem flatMap_chunks_append (hn : 0 < n) (hchain : c.IsChain fun x y => joined x y)
    (hlen : c.length = n) (l : List α) :
    ((c ++ l).splitBy joined).flatMap (chunks n) =
      c :: (l.splitBy joined).flatMap (chunks n) := by
  have hc : c ≠ [] := List.ne_nil_of_length_pos (by omega)
  cases l with
  | nil =>
      rw [List.append_nil, flatMap_chunks_of_isChain hc hchain (by omega)]
      rfl
  | cons a l =>
      cases hjoin : joined (c.getLast hc) a with
      | true =>
          obtain ⟨g, gs, hsplit⟩ := List.exists_cons_of_ne_nil
            (List.splitBy_ne_nil (r := joined).mpr (List.cons_ne_nil a l))
          rw [splitBy_append_of_joined hc hchain hjoin hsplit, hsplit, List.flatMap_cons,
            List.flatMap_cons, chunks_append hn hlen, List.cons_append]
      | false =>
          have hbreak : ∀ x ∈ c.getLast?, joined x a = false := by
            intro x hx
            rw [List.getLast?_eq_some_getLast hc, Option.mem_some_iff] at hx
            rwa [← hx]
          rw [List.splitBy_append_cons l hbreak, List.flatMap_append,
            flatMap_chunks_of_isChain hc hchain (by omega), List.singleton_append]

end Split

/-- One pass with an open chunk yields the chunks of the groups. -/
theorem segment_eq {joined : α → α → Bool} {n : Nat} (hn : 0 < n) {c : List α} (l : List α)
    (hchain : c.IsChain fun x y => joined x y) (hlen : c.length < n) :
    segment joined n c l = ((c ++ l).splitBy joined).flatMap (chunks n) := by
  induction l generalizing c with
  | nil =>
      cases c with
      | nil => simp [segment]
      | cons b c =>
          rw [List.append_nil, flatMap_chunks_of_isChain (by simp) hchain (by omega)]
          rfl
  | cons a l ih =>
      -- After `next` the pass goes on with the rest, whether `next` is full or not.
      have hgo : ∀ next : List α, next.IsChain (fun x y => joined x y) → next.length ≤ n →
          (if n ≤ next.length then next :: segment joined n [] l else segment joined n next l) =
            ((next ++ l).splitBy joined).flatMap (chunks n) := by
        intro next hnext hle
        split_ifs with hfull
        · rw [flatMap_chunks_append hn hnext (by omega), ih List.isChain_nil (by simpa using hn),
            List.nil_append]
        · exact ih hnext (by omega)
      rw [segment]
      cases hbreak : c.getLast?.any fun b => !joined b a with
      | true =>
          obtain ⟨b, hb, hnot⟩ := (Option.any_eq_true _ _).mp hbreak
          have hc : c ≠ [] := by
            rintro rfl
            cases hb
          have hlast : ∀ x ∈ c.getLast?, joined x a = false := by
            intro x hx
            rw [hb, Option.mem_some_iff] at hx
            subst hx
            simpa using hnot
          simp only [if_true, List.singleton_append]
          rw [hgo [a] (by simp) hn, List.splitBy_append_cons l hlast,
            List.flatMap_append, flatMap_chunks_of_isChain hc hchain (by omega)]
          rfl
      | false =>
          have hnext : (c ++ [a]).IsChain fun x y => joined x y := by
            refine List.isChain_append.mpr ⟨hchain, by simp, ?_⟩
            intro x hx y hy
            have hjoin := (Option.any_eq_false _ _).mp hbreak x hx
            rw [List.head?_singleton, Option.mem_some_iff] at hy
            subst hy
            simpa using hjoin
          simp only [Bool.false_eq_true, if_false, List.nil_append]
          rw [hgo (c ++ [a]) hnext (by simp; omega), List.append_assoc, List.singleton_append]

end SddsReceiver
