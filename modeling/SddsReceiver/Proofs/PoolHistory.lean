import Mathlib.Data.List.DropRight
import SddsReceiver.SharedPool

/-!
# What a pool has been through

A pool is called in any order and with any arguments, also with frames and slots that it never
handed out. The figures that it notes are those of its lists after every call. Slots are only
ever given back into room that there is, so the empty ones stay within the capacity.

Frames leave in the order in which they came. The history tells which came and which left
since the pool was last emptied as a whole, and the queue is the difference.
-/
namespace SddsReceiver

/-- Slots are given back as far as there is room, and then no more. -/
theorem Pool.foldl_giveBack (p : Pool) (slots : List Packet) :
    slots.foldl giveBack p = p.recycle slots := by
  induction slots generalizing p with
  | nil => simp [recycle]
  | cons slot slots ih =>
      rw [List.foldl_cons, ih]
      by_cases hroom : p.held < p.capacity
      · have hnext : p.giveBack slot = { p with empty := p.empty ++ [slot] } := if_pos hroom
        have hheld : (p.giveBack slot).held = p.held + 1 := by
          simp only [hnext, held, List.length_append, List.length_singleton]
          omega
        have hfirst : p.capacity - p.held = p.capacity - (p.held + 1) + 1 := by omega
        rw [recycle, hheld, hnext, recycle, hfirst, List.take_succ_cons, List.append_assoc,
          List.singleton_append]
      · have hnext : p.giveBack slot = p := if_neg hroom
        have hnone : p.capacity - p.held = 0 := by omega
        rw [hnext, recycle, recycle, hnone, List.take_zero, List.take_zero]

inductive PoolCall where
  | renew (capacity : Nat)
  | shutdown
  | close
  | take (n : Nat)
  | queue (frames : List Frame)
  | pop (n : Nat)
  | recycle (slots : List Packet)

inductive PoolAnswer where
  | nothing
  | slots (slots : List Packet)
  | frames (frames : List Frame)

structure PoolEvent where
  call : PoolCall
  answer : PoolAnswer

namespace PoolEvent

/-- The call empties the pool as a whole. -/
def empties (e : PoolEvent) : Bool :=
  match e.call with
  | .renew _ | .shutdown => true
  | .close | .take _ | .queue _ | .pop _ | .recycle _ => false

def brought (e : PoolEvent) : List Frame :=
  match e.call with
  | .queue frames => frames
  | .renew _ | .shutdown | .close | .take _ | .pop _ | .recycle _ => []

def handedOut (e : PoolEvent) : List Frame :=
  match e.answer with
  | .frames frames => frames
  | .nothing | .slots _ => []

/-- The events since the pool was last emptied as a whole. -/
def recent (events : List PoolEvent) : List PoolEvent := events.rtakeWhile fun e => !e.empties

theorem recent_concat_of_empties {e : PoolEvent} (h : e.empties = true)
    (events : List PoolEvent) : recent (events ++ [e]) = [] := by
  rw [recent, List.rtakeWhile_concat, h]
  rfl

theorem recent_concat {e : PoolEvent} (h : e.empties = false) (events : List PoolEvent) :
    recent (events ++ [e]) = recent events ++ [e] := by
  rw [recent, List.rtakeWhile_concat, h]
  rfl

end PoolEvent

namespace SharedPool

def call (s : SharedPool) : PoolCall → SharedPool × PoolAnswer
  | .renew capacity => (s.renew capacity, .nothing)
  | .shutdown => (s.shutdown, .nothing)
  | .close => (s.close, .nothing)
  | .take n => ((s.take n).1, .slots (s.take n).2)
  | .queue frames => (s.queue frames, .nothing)
  | .pop n => ((s.pop n).1, .frames (s.pop n).2)
  | .recycle slots => (s.recycle slots, .nothing)

def run (s : SharedPool) (calls : List PoolCall) : SharedPool :=
  calls.foldl (fun s c => (s.call c).1) s

/-- The calls with what each of them handed out. -/
def history (s : SharedPool) : List PoolCall → List PoolEvent
  | [] => []
  | c :: cs => ⟨c, (s.call c).2⟩ :: (s.call c).1.history cs

theorem run_concat (s : SharedPool) (calls : List PoolCall) (c : PoolCall) :
    s.run (calls ++ [c]) = ((s.run calls).call c).1 := by
  rw [run, List.foldl_append]
  rfl

theorem history_concat (s : SharedPool) (calls : List PoolCall) (c : PoolCall) :
    s.history (calls ++ [c]) = s.history calls ++ [⟨c, ((s.run calls).call c).2⟩] := by
  induction calls generalizing s with
  | nil => rfl
  | cons first rest ih =>
      rw [List.cons_append, history, ih, history, List.cons_append]
      rfl

structure Sound (s : SharedPool) : Prop where
  emptyCount_eq : s.emptyCount = s.empty.length
  fullCount_eq : s.fullCount = s.full.length
  empty_le : s.empty.length ≤ s.capacity

theorem recycle_toPool (s : SharedPool) (slots : List Packet) :
    (s.recycle slots).toPool = s.toPool.recycle slots :=
  s.toPool.foldl_giveBack slots

theorem queue_toPool (s : SharedPool) (frames : List Frame) :
    (s.queue frames).toPool = s.toPool.queue frames := by
  cases frames with
  | nil => simp [queue, Pool.queue]
  | cons f fs => rfl

section Call
variable {s : SharedPool}

theorem Sound.note (s : SharedPool) {contents : Pool}
    (h : contents.empty.length ≤ contents.capacity) : (s.note contents).Sound :=
  ⟨rfl, rfl, h⟩

theorem Sound.call (h : s.Sound) (c : PoolCall) : (s.call c).1.Sound := by
  cases c with
  | renew capacity => exact .note s (Nat.le_of_eq List.length_replicate)
  | shutdown => exact .note s (Nat.le_refl 0)
  | close => exact ⟨h.emptyCount_eq, h.fullCount_eq, h.empty_le⟩
  | take n =>
      apply Sound.note s
      have htaken := s.toPool.length_empty_take n
      have hle := h.empty_le
      change (s.toPool.take n).1.empty.length ≤ s.capacity
      omega
  | queue frames =>
      cases frames with
      | nil => exact h
      | cons f fs => exact .note s h.empty_le
  | pop n => exact .note s h.empty_le
  | recycle slots =>
      apply Sound.note s
      have hle := h.empty_le
      rw [Pool.foldl_giveBack]
      simp only [Pool.recycle, Pool.held, List.length_append, List.length_take]
      omega

/-- Frames left and frames handed out are those that were queued and those that came. -/
theorem call_frames (c : PoolCall) (h : PoolEvent.empties ⟨c, (s.call c).2⟩ = false) :
    PoolEvent.handedOut ⟨c, (s.call c).2⟩ ++ (s.call c).1.full =
      s.full ++ PoolEvent.brought ⟨c, (s.call c).2⟩ := by
  cases c with
  | renew capacity => cases h
  | shutdown => cases h
  | close => exact (List.append_nil s.full).symm
  | take n => exact (List.append_nil s.full).symm
  | queue frames => exact congrArg Pool.full (s.queue_toPool frames)
  | pop n => exact (s.toPool.pop_append_full n).trans (List.append_nil s.full).symm
  | recycle slots =>
      exact (congrArg Pool.full (s.recycle_toPool slots)).trans (List.append_nil s.full).symm

theorem call_full_of_empties (c : PoolCall) (h : PoolEvent.empties ⟨c, (s.call c).2⟩ = true) :
    (s.call c).1.full = [] := by
  cases c with
  | renew capacity => rfl
  | shutdown => rfl
  | _ => cases h

theorem Sound.ready_eq (h : s.Sound) : s.ready = s.toPool.ready := by
  rw [ready, h.fullCount_eq, Pool.ready]
  cases s.full <;> rfl

end Call

theorem run_sound (calls : List PoolCall) : (initial.run calls).Sound := by
  induction calls using List.reverseRecOn with
  | nil => exact ⟨rfl, rfl, Nat.le_refl 0⟩
  | append_singleton calls c ih =>
      rw [run_concat]
      exact ih.call c

theorem run_frames (calls : List PoolCall) :
    (PoolEvent.recent (initial.history calls)).flatMap PoolEvent.handedOut ++
        (initial.run calls).full =
      (PoolEvent.recent (initial.history calls)).flatMap PoolEvent.brought := by
  induction calls using List.reverseRecOn with
  | nil => rfl
  | append_singleton calls c ih =>
      let e : PoolEvent := ⟨c, ((initial.run calls).call c).2⟩
      rw [run_concat, history_concat]
      cases hempties : e.empties with
      | true =>
          rw [PoolEvent.recent_concat_of_empties hempties, call_full_of_empties c hempties]
          rfl
      | false =>
          rw [PoolEvent.recent_concat hempties, List.flatMap_append, List.flatMap_append,
            List.flatMap_singleton, List.flatMap_singleton, List.append_assoc,
            call_frames c hempties, ← List.append_assoc, ih]

/-- Whatever has been called on a pool, with whatever frames and slots, its figures are the
lengths of its lists, so that nobody waits for frames that are there, and the empty slots do
not exceed the capacity. Giving slots back fills the pool up to the capacity at most. As many
slots and frames are handed out as are asked for and there, and the others stay. The frames that
have left since the pool was last emptied as a whole, and then those still queued, are those that
came since, in their order. -/
theorem run_accounts_contents (calls : List PoolCall) :
    let s := initial.run calls
    let recent := PoolEvent.recent (initial.history calls)
    (s.emptyCount = s.empty.length ∧ s.fullCount = s.full.length ∧
        s.ready = s.toPool.ready) ∧
      s.empty.length ≤ s.capacity ∧
      (∀ slots, (s.recycle slots).capacity = s.capacity ∧
        (s.recycle slots).held = max s.held (min (s.held + slots.length) s.capacity)) ∧
      (∀ n, (s.take n).2.length = min n s.emptyCount ∧
        (s.take n).1.empty ++ (s.take n).2 = s.empty) ∧
      (∀ n, (s.pop n).2.length = min n s.fullCount ∧
        (s.pop n).2 ++ (s.pop n).1.full = s.full) ∧
      recent.flatMap PoolEvent.handedOut ++ s.full = recent.flatMap PoolEvent.brought := by
  intro s recent
  have hs : s.Sound := run_sound calls
  refine ⟨⟨hs.emptyCount_eq, hs.fullCount_eq, hs.ready_eq⟩, hs.empty_le, ?_, ?_, ?_,
    run_frames calls⟩
  · intro slots
    have hheld := s.toPool.held_recycle slots
    rw [← recycle_toPool] at hheld
    constructor
    · rw [s.recycle_toPool slots]
      rfl
    · omega
  · intro n
    constructor
    · rw [hs.emptyCount_eq]
      exact s.toPool.length_take n
    · exact List.take_append_drop _ _
  · intro n
    constructor
    · rw [hs.fullCount_eq]
      exact s.toPool.length_pop n
    · exact s.toPool.pop_append_full n

end SharedPool

end SddsReceiver
