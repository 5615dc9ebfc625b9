import SddsReceiver.ClockTracker
import SddsReceiver.Proofs.FrameLoss

/-!
# What the clock judges a frame against

The tracker keeps the tag, the period and the complex flag of its reference in three fields,
which change on different occasions; the flag of an old reference even outlives it. All the same
a frame is only ever judged against the one observed right before it. The tag and the period are
there exactly when that frame can be judged, and then all three fields are its own.

So the intervals that are judged can be told from the headers alone, and so can the drift, the
slips and the spacing, which they alone decide: a tracker without any reference that judges the
same intervals comes to the same.
-/
namespace SddsReceiver

namespace Header

/-- The frame can be judged, and others against it. -/
def Checkable (h : Header) : Prop :=
  h.timeValid = true ∧ h.bitsPerSample ≠ 0 ∧ h.hertz > 0.0

instance : DecidablePred Checkable := fun _ => inferInstanceAs (Decidable (_ ∧ _ ∧ _))

/-- Time that the samples of a frame take at its rate, in picoseconds. -/
def framePs (h : Header) : Float :=
  (payloadLength * 8 / h.bitsPerSample.toNat).toUInt64.toFloat / h.hertz * 1e12

end Header

/-- The interval between two frames: as their tags have it, and as it should be at a spacing of
samples. -/
structure ClockInterval where
  actualPs : Float
  perSamplePs : Float
  /-- The first of the two is complex. -/
  complex : Bool
  deriving Repr

/-- From one header to the next, between which frames are missing. Tags count parts of a tick, of
which 2^32 last 250 ps. -/
def ClockInterval.between (last next : Header) (missing : UInt16) : ClockInterval where
  actualPs :=
    Rounding.ofInt ((next.time.subTicks : Int) - last.time.subTicks) * 250.0 / 4294967296.0
  perSamplePs := last.framePs * (missing.toFloat + 1.0)
  complex := last.complex

inductive ClockCall where
  | observe (h : Header) (missing : UInt16)
  | reset
  deriving DecidableEq, Repr

namespace ClockCall

/-- The header observed last, if any has been since the start or a reset. Of a log, the latest
call comes first. -/
def previous : List ClockCall → Option Header
  | observe h _ :: _ => some h
  | _ => none

/-- The reference for the next observation: the previous header, if it is checkable. -/
def reference (log : List ClockCall) : Option Header :=
  (previous log).filter fun h => h.Checkable

def interval? (log : List ClockCall) (h : Header) (missing : UInt16) : Option ClockInterval :=
  if h.Checkable ∧ missing < 1024 then
    (reference log).map fun last => .between last h missing
  else none

theorem reference_eq_some_iff {log : List ClockCall} {last : Header} :
    reference log = some last ↔ previous log = some last ∧ last.Checkable := by
  rw [reference, Option.filter_eq_some_iff, decide_eq_true_eq]

theorem reference_eq_none_iff {log : List ClockCall} :
    reference log = none ↔
      previous log = none ∨ ∃ last, previous log = some last ∧ ¬ last.Checkable := by
  rw [reference]
  cases previous log with
  | none => exact iff_of_true rfl (.inl rfl)
  | some last => simp [Option.filter_some]

theorem interval?_eq_some_iff {log : List ClockCall} {h : Header} {missing : UInt16}
    {i : ClockInterval} :
    interval? log h missing = some i ↔
      h.Checkable ∧ missing < 1024 ∧
        ∃ last, reference log = some last ∧ .between last h missing = i := by
  unfold interval?
  split_ifs with hboth
  · rw [Option.map_eq_some_iff]
    exact ⟨fun hlast => ⟨hboth.1, hboth.2, hlast⟩, fun h => h.2.2⟩
  · exact ⟨nofun, fun h => (hboth ⟨h.1, h.2.1⟩).elim⟩

theorem interval?_unchecked {log : List ClockCall} {h : Header} (hcheck : ¬ h.Checkable)
    {missing : UInt16} : interval? log h missing = none :=
  if_neg fun hboth => hcheck hboth.1

theorem interval?_eq_none_iff {log : List ClockCall} {h : Header} (hcheck : h.Checkable)
    {missing : UInt16} :
    interval? log h missing = none ↔
      previous log = none ∨ (∃ last, previous log = some last ∧ ¬ last.Checkable) ∨
        1024 ≤ missing := by
  rw [← UInt16.not_lt, ← or_assoc, ← reference_eq_none_iff, interval?]
  by_cases hfew : missing < 1024
  · rw [if_pos ⟨hcheck, hfew⟩, Option.map_eq_none_iff]
    exact (or_iff_left (not_not_intro hfew)).symm
  · rw [if_neg fun hboth => hfew hboth.2]
    exact iff_of_true rfl (.inr hfew)

/-- The intervals judged since the start or a reset, the earliest first. -/
def intervals : List ClockCall → List ClockInterval
  | observe h missing :: earlier => intervals earlier ++ (interval? earlier h missing).toList
  | _ => []

end ClockCall

namespace SequenceTracker

/-- How far a number may fall back and still count as 1024 lost frames or more. -/
def maxRegression : Nat := 64510

theorem missing_of_regression (s : SequenceTracker) {last n : UInt16}
    (h : (last - n).toNat ≤ maxRegression) : 1024 ≤ ((s.accept last).1.accept n).2 := by
  have hmissing : ((s.accept last).1.accept n).2 = n - SequenceNumber.successor last := rfl
  have hlast := last.toNat_lt
  have hn := n.toNat_lt
  rw [UInt16.toNat_sub, maxRegression] at h
  rw [hmissing, UInt16.le_iff_toNat_le, UInt16.toNat_sub, SequenceNumber.toNat_successor,
    show (1024 : UInt16).toNat = 1024 from rfl]
  split <;> omega

end SequenceTracker

namespace ClockTracker
open ClockCall

def call (t : ClockTracker) : ClockCall → ClockTracker
  | .observe h missing => (t.observe h missing).1
  | .reset => t.reset

/-- The tracker after a log of calls, from construction on. -/
def after : List ClockCall → ClockTracker
  | [] => initial
  | c :: earlier => (after earlier).call c

def judgeInterval (t : ClockTracker) (i : ClockInterval) : ClockTracker × ClockEvent :=
  t.judge i.actualPs i.perSamplePs i.complex

def judgeAll (is : List ClockInterval) : ClockTracker :=
  is.foldl (fun t i => (t.judgeInterval i).1) initial

def withReference (t : ClockTracker) (tag : Option TimeTag) (periodPs : Option Float)
    (complex : Bool) : ClockTracker :=
  { t with lastTag := tag, periodPs := periodPs, complex := complex }

def withDrift (t : ClockTracker) (driftPs : Float) (slips : Nat) : ClockTracker :=
  { t with driftPs := driftPs, slips := slips }

/-- The tracker without its reference, and without the flag that may outlive it. -/
def bare (t : ClockTracker) : ClockTracker := t.withReference none none false

section Judging
variable (t : ClockTracker) (tag : Option TimeTag) (periodPs : Option Float) (complex : Bool)

/-- Weighing reads and writes the drift and the slips alone, so whatever is done to other fields
may be done before or after. -/
theorem weigh_commutes (g : ClockTracker → ClockTracker)
    (hg : ∀ u driftPs slips, g (u.withDrift driftPs slips) = (g u).withDrift driftPs slips)
    (deviationPs : Float) :
    (g t).weigh deviationPs = (g (t.weigh deviationPs).1, (t.weigh deviationPs).2) := by
  have hsame : g t = (g t).withDrift t.driftPs t.slips := hg t t.driftPs t.slips
  have hdrift : (g t).driftPs = t.driftPs := (congrArg ClockTracker.driftPs hsame :)
  have hslips : (g t).slips = t.slips := (congrArg ClockTracker.slips hsame :)
  simp only [weigh, hdrift, hslips]
  split
  · exact Prod.ext (hg t 0.0 (t.slips + 1)).symm rfl
  · split
    · exact Prod.ext (hg t 0.0 (t.slips + 1)).symm rfl
    · exact Prod.ext (hg t (t.driftPs + deviationPs) t.slips).symm rfl

theorem weigh_withReference (deviationPs : Float) :
    (t.withReference tag periodPs complex).weigh deviationPs =
      ((t.weigh deviationPs).1.withReference tag periodPs complex, (t.weigh deviationPs).2) :=
  t.weigh_commutes (withReference · tag periodPs complex) (fun _ _ _ => rfl) deviationPs

theorem judgeInterval_withReference (i : ClockInterval) :
    (t.withReference tag periodPs complex).judgeInterval i =
      ((t.judgeInterval i).1.withReference tag periodPs complex, (t.judgeInterval i).2) := by
  unfold judgeInterval judge
  by_cases hrollover : i.actualPs < rolloverThresholdPs
  · rw [if_pos hrollover, if_pos hrollover]
  · rw [if_neg hrollover, if_neg hrollover]
    let (expectedPs, spacing) := t.expectation i.actualPs i.perSamplePs i.complex
    exact weigh_withReference
      { t with expectedIncrementPs := some expectedPs.round.toInt64, spacing := spacing }
      tag periodPs complex (i.actualPs - expectedPs)

theorem judgeInterval_bare (i : ClockInterval) :
    t.bare.judgeInterval i = ((t.judgeInterval i).1.bare, (t.judgeInterval i).2) :=
  t.judgeInterval_withReference none none false i

end Judging

theorem periodOf_eq (h : Header) :
    periodOf h = if h.Checkable then some h.framePs else none := by
  simp only [periodOf, Header.samplesPerFrame]
  by_cases hbits : h.bitsPerSample = 0
  · have hnot : ¬ h.Checkable := fun hcheck => hcheck.2.1 hbits
    rw [if_pos hbits, if_neg hnot]
  · rw [if_neg hbits]
    simp only [Header.Checkable, ne_eq, hbits, not_false_eq_true, true_and, Bool.and_eq_true,
      decide_eq_true_eq, Header.framePs]

structure RefersTo (t : ClockTracker) (reference : Option Header) : Prop where
  tag_eq : t.lastTag = reference.map Header.time
  period_eq : t.periodPs = reference.map Header.framePs
  complex_eq : ∀ h ∈ reference, t.complex = h.complex

theorem RefersTo.seed (t : ClockTracker) (h : Header) :
    (t.seed h h.framePs).RefersTo (some h) :=
  ⟨rfl, rfl, fun _ hmem => by cases hmem; rfl⟩

theorem RefersTo.forget (t : ClockTracker) : t.forget.RefersTo none :=
  ⟨rfl, rfl, nofun⟩

section Observing
variable {t : ClockTracker} {h : Header} {missing : UInt16}

theorem observe_unchecked (t : ClockTracker) (hcheck : ¬ h.Checkable) (missing : UInt16) :
    t.observe h missing = (t.forget, .unchecked) := by
  rw [observe, periodOf_eq, if_neg hcheck]

theorem RefersTo.observe_first (ht : t.RefersTo none) (hcheck : h.Checkable)
    (missing : UInt16) : t.observe h missing = (t.seed h h.framePs, .seeded) := by
  rw [observe, periodOf_eq, if_pos hcheck, ht.tag_eq, ht.period_eq]
  rfl

variable {last : Header}

theorem RefersTo.observe_gap (ht : t.RefersTo (some last)) (hcheck : h.Checkable)
    (hmany : ¬ missing < 1024) : t.observe h missing = (t.seed h h.framePs, .seeded) := by
  rw [observe, periodOf_eq, if_pos hcheck, ht.tag_eq, ht.period_eq]
  exact if_neg hmany

theorem RefersTo.observe_judged (ht : t.RefersTo (some last)) (hcheck : h.Checkable)
    (hfew : missing < 1024) :
    let judged := t.judgeInterval (.between last h missing)
    t.observe h missing = (judged.1.seed h h.framePs, judged.2) := by
  have hbridged : missing < maxBridged := hfew
  rw [observe, periodOf_eq, if_pos hcheck, ht.tag_eq, ht.period_eq, ht.complex_eq last rfl]
  dsimp only [Option.map_some]
  rw [if_pos hbridged]
  exact t.judgeInterval_withReference (some h.time) (some h.framePs) h.complex
    (.between last h missing)

/-- What an observation does, told by the headers. -/
theorem RefersTo.observe_cases {log : List ClockCall} (ht : t.RefersTo (reference log))
    (h : Header) (missing : UInt16) :
    (¬ h.Checkable ∧ t.observe h missing = (t.forget, .unchecked)) ∨
    (h.Checkable ∧ interval? log h missing = none ∧
      t.observe h missing = (t.seed h h.framePs, .seeded)) ∨
    (h.Checkable ∧ ∃ i, interval? log h missing = some i ∧
      t.observe h missing = ((t.judgeInterval i).1.seed h h.framePs, (t.judgeInterval i).2)) := by
  by_cases hcheck : h.Checkable
  · cases hlast : reference log with
    | none =>
        rw [hlast] at ht
        have hnone : interval? log h missing = none := by
          rw [interval?, hlast, Option.map_none, ite_self]
        exact .inr (.inl ⟨hcheck, hnone, ht.observe_first hcheck missing⟩)
    | some last =>
        rw [hlast] at ht
        by_cases hfew : missing < 1024
        · have hsome := interval?_eq_some_iff.mpr ⟨hcheck, hfew, last, hlast, rfl⟩
          exact .inr (.inr ⟨hcheck, _, hsome, ht.observe_judged hcheck hfew⟩)
        · have hnone : interval? log h missing = none := if_neg fun hboth => hfew hboth.2
          exact .inr (.inl ⟨hcheck, hnone, ht.observe_gap hcheck hfew⟩)
  · exact .inl ⟨hcheck, observe_unchecked t hcheck missing⟩

end Observing

theorem reference_observe (log : List ClockCall) (h : Header) (missing : UInt16) :
    reference (.observe h missing :: log) = if h.Checkable then some h else none := by
  simp only [reference, previous, Option.filter_some, decide_eq_true_eq]

theorem after_refersTo (log : List ClockCall) : (after log).RefersTo (reference log) := by
  induction log with
  | nil => exact .forget initial
  | cons c earlier ih =>
      cases c with
      | reset => exact .forget initial
      | observe h missing =>
          rw [after, call, reference_observe]
          rcases ih.observe_cases h missing with
            ⟨hcheck, hstep⟩ | ⟨hcheck, -, hstep⟩ | ⟨hcheck, i, -, hstep⟩
          · rw [hstep, if_neg hcheck]
            exact .forget _
          · rw [hstep, if_pos hcheck]
            exact .seed _ h
          · rw [hstep, if_pos hcheck]
            exact .seed _ h

theorem judgeAll_concat (is : List ClockInterval) (i : ClockInterval) :
    judgeAll (is ++ [i]) = ((judgeAll is).judgeInterval i).1 :=
  List.foldl_concat ..

/-- But for its reference, the tracker is one that has judged the intervals between neighbours
and nothing else. -/
theorem after_bare (log : List ClockCall) : (after log).bare = judgeAll (intervals log) := by
  induction log with
  | nil => rfl
  | cons c earlier ih =>
      cases c with
      | reset => rfl
      | observe h missing =>
          rw [after, call, intervals]
          rcases (after_refersTo earlier).observe_cases h missing with
            ⟨hcheck, hstep⟩ | ⟨-, hnone, hstep⟩ | ⟨-, i, hsome, hstep⟩
          · rw [hstep, interval?_unchecked hcheck, Option.toList_none, List.append_nil, ← ih]
            rfl
          · rw [hstep, hnone, Option.toList_none, List.append_nil, ← ih]
            rfl
          · rw [hstep, hsome, Option.toList_some, judgeAll_concat, ← ih, judgeInterval_bare]
            rfl

end ClockTracker

end SddsReceiver
