import Mathlib.Algebra.GroupWithZero.Nat
import SddsReceiver.Proofs.Push.Steps

/-!
# Announcing the description of a stream

A push carries one description for all its frames. A consumer holds on to the description of
the last push and looks again only where a push is marked; an end mark lets the description
go. This works if frames are joined under one description only, and if no push with another
description than the one held is left unmarked.

A change is told to the scheduler once, with the first frame that brings it, and that frame may
be withheld. So between two frames the scheduler is *current*: the description told last is
that of the open batch, or of the last push, or its announcement is pending.
-/
namespace SddsReceiver

namespace Push

/-- The push joins exactly these frames, and all of them came under its description. -/
structure Joins (p : Push) (frames : List Offer) : Prop where
  frames_eq : p.frames = frames.length
  samples_eq : p.samples.samples =
    frames.flatMap fun o => Sample.decode p.samples.lane o.order o.payload
  start_eq : frames.head?.map Offer.timestamp = some p.timestamp
  sri_eq : ∀ o ∈ frames, o.sri = p.sri

inductive Deliver : List Push → List Offer → Prop
  | nil : Deliver [] []
  | data {p : Push} {ps : List Push} {frames later : List Offer} (hdata : p.endOfStream = false)
      (joins : p.Joins frames) (rest : Deliver ps later) : Deliver (p :: ps) (frames ++ later)
  | ending {p : Push} {ps : List Push} {frames : List Offer} (hend : p.endOfStream = true)
      (rest : Deliver ps frames) : Deliver (p :: ps) frames

def frameTotal (pushes : List Push) : Nat :=
  ((pushes.filter fun p => !p.endOfStream).map Push.frames).sum

/-- What a consumer holds on to after the push. -/
def leaves (p : Push) : Option Sri := if p.endOfStream then none else some p.sri

/-- A consumer that holds a description need not look at unmarked pushes. -/
inductive Announces : Option Sri → List Push → Option Sri → Prop
  | nil (held : Option Sri) : Announces held [] held
  | cons {held last : Option Sri} {p : Push} {ps : List Push}
      (marked : p.endOfStream = false → p.sriChanged = false → held = some p.sri)
      (rest : Announces p.leaves ps last) : Announces held (p :: ps) last

theorem Deliver.append {ps qs : List Push} {frames later : List Offer} (h : Deliver ps frames)
    (hlater : Deliver qs later) : Deliver (ps ++ qs) (frames ++ later) := by
  induction h with
  | nil => exact hlater
  | data hdata joins _ ih =>
      rw [List.append_assoc]
      exact .data hdata joins ih
  | ending hend _ ih => exact .ending hend ih

theorem Announces.append {held between last : Option Sri} {ps qs : List Push}
    (h : Announces held ps between) (hlater : Announces between qs last) :
    Announces held (ps ++ qs) last := by
  induction h with
  | nil => exact hlater
  | cons marked _ ih => exact .cons marked (ih hlater)

/-- An unmarked push with data has the description of the push right before it, and that one
is no end mark. -/
theorem Announces.unmarked {held last : Option Sri} {earlier later : List Push} {p : Push}
    (h : Announces held (earlier ++ p :: later) last) (hdata : p.endOfStream = false)
    (hmark : p.sriChanged = false) :
    (earlier = [] ∧ held = some p.sri) ∨
      ∃ q ∈ earlier.getLast?, q.endOfStream = false ∧ q.sri = p.sri := by
  induction earlier generalizing held with
  | nil =>
      cases h with
      | cons marked rest => exact .inl ⟨rfl, marked hdata hmark⟩
  | cons q earlier ih =>
      refine .inr ?_
      cases h with
      | cons marked rest =>
          rcases ih rest with ⟨rfl, hheld⟩ | ⟨r, hr, hlast⟩
          · -- The push before is `q`, and it left what is held now.
            cases hend : q.endOfStream with
            | true => simp [leaves, hend] at hheld
            | false =>
                simp only [leaves, hend, Bool.false_eq_true, if_false, Option.some.injEq] at hheld
                exact ⟨q, rfl, hend, hheld⟩
          · refine ⟨r, ?_, hlast⟩
            rw [Option.mem_def] at hr ⊢
            rw [List.getLast?_cons, hr]
            rfl

theorem Joins.ofOffer (lane : Lane) (o : Offer) (changed : Bool) :
    (Batch.ofOffer lane o changed).toPush.Joins [o] where
  frames_eq := rfl
  samples_eq := by simp [Batch.ofOffer, Batch.toPush, SampleBuffer.samples_extend]
  start_eq := rfl
  sri_eq := by simp [Batch.ofOffer, Batch.toPush]

theorem Joins.add {b : Batch} {frames : List Offer} (h : b.toPush.Joins frames) {o : Offer}
    (hsri : o.sri = b.sri) (changed : Bool) :
    (b.add o changed).toPush.Joins (frames ++ [o]) where
  frames_eq := by
    rw [List.length_append, ← h.frames_eq]
    rfl
  samples_eq := by
    have hlane : (b.add o changed).toPush.samples.lane = b.samples.lane :=
      b.samples.lane_extend o.payload o.order
    have hsamples : b.samples.samples = _ := h.samples_eq
    rw [hlane, List.flatMap_append, List.flatMap_singleton]
    exact (b.samples.samples_extend o.payload o.order).trans (congrArg (· ++ _) hsamples)
  start_eq := by
    cases frames with
    | nil => cases h.start_eq
    | cons first rest => exact h.start_eq
  sri_eq := by
    intro k hk
    rcases List.mem_append.mp hk with hk | hk
    · exact (h.sri_eq k hk).trans hsri.symm
    · rw [List.mem_singleton.mp hk]
      rfl

theorem Deliver.frameTotal {ps : List Push} {frames : List Offer} (h : Deliver ps frames) :
    Push.frameTotal ps = frames.length := by
  induction h with
  | nil => rfl
  | data hdata joins _ ih =>
      rw [Push.frameTotal] at ih ⊢
      simp [hdata, ih, joins.frames_eq]
  | ending hend _ ih =>
      rw [Push.frameTotal] at ih ⊢
      simpa [hend] using ih

end Push

namespace Scheduler

def Gathers (s : Scheduler) (frames : List Offer) : Prop :=
  match s.batch with
  | none => frames = []
  | some b => b.toPush.Joins frames

structure Current (s : Scheduler) (told : Option Sri) : Prop where
  opened : ∀ b ∈ s.batch, told = some b.sri ∧ s.sriPending = false ∧
    (b.sriChanged = false → s.lastSri = some b.sri)
  closed : s.batch = none → s.sriPending = false → s.lastSri = told

theorem Gathers.of_none {s : Scheduler} (h : s.batch = none) : s.Gathers [] := by
  rw [Gathers, h]

theorem Gathers.of_some {s : Scheduler} {b : Batch} {frames : List Offer} (h : s.batch = some b)
    (hjoins : b.toPush.Joins frames) : s.Gathers frames := by
  rw [Gathers, h]
  exact hjoins

section Flush
variable {s : Scheduler} {frames : List Offer} {told : Option Sri}

theorem flush_lastSri : s.flush.1.lastSri = (s.batch.map Batch.sri).or s.lastSri := by
  cases h : s.batch <;> simp [flush, h]

theorem Gathers.flush (h : s.Gathers frames) : Push.Deliver s.flush.2 frames := by
  rw [flush_pushes]
  cases hb : s.batch with
  | none =>
      rw [Gathers, hb] at h
      rw [h]
      exact .nil
  | some b =>
      rw [Gathers, hb] at h
      have hone := Push.Deliver.data rfl h .nil
      rwa [List.append_nil] at hone

theorem Gathers.flushIf (h : s.Gathers frames) (c : Bool) :
    ∃ out rest, frames = out ++ rest ∧ Push.Deliver (s.flushIf c).2 out ∧
      (s.flushIf c).1.Gathers rest := by
  cases c with
  | false => exact ⟨[], frames, rfl, .nil, h⟩
  | true => exact ⟨frames, [], (List.append_nil _).symm, h.flush, .of_none s.flush_batch⟩

theorem Current.flush (h : s.Current told) :
    s.flush.1.Current told ∧ Push.Announces s.lastSri s.flush.2 s.flush.1.lastSri := by
  rw [flush_lastSri, flush_pushes]
  cases hb : s.batch with
  | none =>
      refine ⟨⟨by simp, fun _ hpending => ?_⟩, .nil _⟩
      rw [flush_sriPending] at hpending
      rw [flush_lastSri, hb]
      exact h.closed hb hpending
  | some b =>
      obtain ⟨htold, hpending, hmark⟩ := h.opened b hb
      refine ⟨⟨by simp, fun _ _ => ?_⟩, .cons (fun _ => hmark) (.nil _)⟩
      rw [flush_lastSri, hb, htold]
      rfl

theorem Current.flushIf (h : s.Current told) (c : Bool) :
    (s.flushIf c).1.Current told ∧
      Push.Announces s.lastSri (s.flushIf c).2 (s.flushIf c).1.lastSri := by
  cases c with
  | false => exact ⟨h, .nil _⟩
  | true => exact h.flush

end Flush

section Take
variable {s : Scheduler} {frames : List Offer} {told : Option Sri} {o : Offer}

/-- Before a frame joins, whatever is open came under the frame's own description. -/
theorem Current.opened_sri (h : s.Current told) (hsame : o.sriChanged = false → told = some o.sri) :
    ∀ b ∈ (s.opened o).1.batch, b.sri = o.sri := by
  intro b hb
  rw [opened_batch] at hb
  cases hchanged : o.sriChanged with
  | true => simp [cutsBefore, hchanged] at hb
  | false =>
      have hopen : b ∈ s.batch := by
        split at hb
        · cases hb
        · exact hb
      have htold := (h.opened b hopen).1
      rw [hsame hchanged, Option.some.injEq] at htold
      exact htold.symm

theorem Gathers.append (h : s.Gathers frames) (lane : Lane) (hsri : ∀ b ∈ s.batch, b.sri = o.sri) :
    (s.append lane o).Gathers (frames ++ [o]) := by
  cases hb : s.batch with
  | none =>
      rw [Gathers, hb] at h
      rw [h]
      refine .of_some rfl ?_
      rw [hb]
      exact .ofOffer lane o _
  | some b =>
      rw [Gathers, hb] at h
      refine .of_some rfl ?_
      rw [hb]
      exact h.add (hsri b hb).symm _

/-- The frames of the open batch and, unless it is withheld, the new one are delivered by the
pushes or stay in the open batch. -/
theorem Gathers.take (h : s.Gathers frames) (hcurrent : s.Current told) (lane : Lane)
    (hsame : o.sriChanged = false → told = some o.sri) :
    ∃ out rest, (frames ++ if s.policy.withholds o.timeValid then [] else [o]) = out ++ rest ∧
      Push.Deliver (s.take lane o).2 out ∧ (s.take lane o).1.Gathers rest := by
  have hstart : Gathers { s with lastValid := some o.timeValid } frames := h
  obtain ⟨out, rest, hsplit, hout, hrest⟩ := hstart.flushIf (s.cutsBefore o)
  cases hw : s.policy.withholds o.timeValid with
  | true =>
      rw [take_withheld s lane o hw, if_pos rfl, List.append_nil]
      exact ⟨out, rest, hsplit, hout, hrest⟩
  | false =>
      have hjoined := hrest.append lane (hcurrent.opened_sri hsame)
      obtain ⟨more, last, hsplit', hmore, hlast⟩ :=
        hjoined.flushIf ((s.opened o).1.append lane o).full
      rw [take_kept s lane o hw]
      refine ⟨out ++ more, last, ?_, hout.append hmore, hlast⟩
      rw [if_neg (by simp), hsplit, List.append_assoc, List.append_assoc, hsplit']

theorem Current.append (h : s.Current told) (lane : Lane) (hsri : ∀ b ∈ s.batch, b.sri = o.sri)
    (hsame : o.sriChanged = false → told = some o.sri) :
    (s.append lane o).Current (some o.sri) := by
  refine ⟨?_, fun hnone => by simp [Scheduler.append] at hnone⟩
  intro b hb
  cases hopen : s.batch with
  | none =>
      simp only [Scheduler.append, hopen, Option.mem_def, Option.some.injEq] at hb
      subst hb
      refine ⟨rfl, rfl, fun hmark => ?_⟩
      -- An unmarked batch has nothing to announce, so the last push had this description.
      obtain ⟨hpending, hunchanged⟩ := Bool.or_eq_false_iff.mp hmark
      exact (h.closed hopen hpending).trans (hsame hunchanged)
  | some before =>
      obtain ⟨-, -, hlast⟩ := h.opened before hopen
      simp only [Scheduler.append, hopen, Option.mem_def, Option.some.injEq] at hb
      subst hb
      refine ⟨rfl, rfl, fun hmark => ?_⟩
      have hheld : s.lastSri = some before.sri := hlast (Bool.or_eq_false_iff.mp hmark).1
      rw [hsri before hopen] at hheld
      exact hheld

theorem Current.take (h : s.Current told) (lane : Lane)
    (hsame : o.sriChanged = false → told = some o.sri) :
    (s.take lane o).1.Current (some o.sri) ∧
      Push.Announces s.lastSri (s.take lane o).2 (s.take lane o).1.lastSri := by
  have hstart : Current { s with lastValid := some o.timeValid } told := ⟨h.opened, h.closed⟩
  obtain ⟨hopened, hbefore⟩ := hstart.flushIf (s.cutsBefore o)
  cases hw : s.policy.withholds o.timeValid with
  | true =>
      rw [take_withheld s lane o hw]
      refine ⟨⟨?_, ?_⟩, hbefore⟩
      · intro b hb
        have hbatch : b ∈ (s.opened o).1.batch := hb
        obtain ⟨-, hpending, hlast⟩ := hopened.opened b hbatch
        refine ⟨congrArg some (h.opened_sri hsame b hbatch).symm, ?_, hlast⟩
        -- A change would have closed the batch.
        cases hchanged : o.sriChanged with
        | true => simp [opened_batch, cutsBefore, hchanged] at hbatch
        | false => exact Bool.or_eq_false_iff.mpr ⟨hpending, hchanged⟩
      · intro hnone hpending
        obtain ⟨hpending, hunchanged⟩ := Bool.or_eq_false_iff.mp hpending
        exact (hopened.closed hnone hpending).trans (hsame hunchanged)
  | false =>
      have hjoined := hopened.append lane (h.opened_sri hsame) hsame
      obtain ⟨hlast, hafter⟩ := hjoined.flushIf ((s.opened o).1.append lane o).full
      rw [take_kept s lane o hw]
      exact ⟨hlast, hbefore.append hafter⟩

end Take

end Scheduler

end SddsReceiver
