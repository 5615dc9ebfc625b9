import Mathlib.Data.List.Induction
import SddsReceiver.Proofs.ClockReference

/-!
# How the clock judges an interval

Judging an interval has four outcomes, which are told apart by how far the interval deviates
from the one expected, alone and together with the deviations before it. The expected interval
of a complex stream depends on the spacing, which the first of them chooses.

So what the earlier intervals leave behind is a drift and a spacing. Both follow from these
intervals alone, and they decide, with the next interval, by which event it is told.
-/
namespace SddsReceiver

namespace ClockInterval

/-- The tags fall back so far that the later one belongs to the next year. -/
def CrossesYear (i : ClockInterval) : Prop := i.actualPs < ClockTracker.rolloverThresholdPs

instance : DecidablePred CrossesYear :=
  fun i => inferInstanceAs (Decidable (i.actualPs < ClockTracker.rolloverThresholdPs))

def nearest (i : ClockInterval) : ComplexSpacing :=
  if (i.actualPs - i.perSamplePs / 2.0).abs < (i.actualPs - i.perSamplePs).abs then .perPair
  else .perSample

/-- The spacing that is latched once the interval is judged, given what was latched before. -/
def latch (i : ClockInterval) (spacing : Option ComplexSpacing) : Option ComplexSpacing :=
  if i.complex then some (spacing.getD i.nearest) else spacing

/-- The expected interval under a spacing, which only a complex one regards. -/
def expectedPs (i : ClockInterval) (spacing : Option ComplexSpacing) : Float :=
  if i.complex ∧ spacing = some .perPair then i.perSamplePs / 2.0 else i.perSamplePs

def deviationPs (i : ClockInterval) (spacing : Option ComplexSpacing) : Float :=
  i.actualPs - i.expectedPs spacing

theorem latch_some (i : ClockInterval) (spacing : ComplexSpacing) :
    i.latch (some spacing) = some spacing := by
  unfold latch
  split <;> rfl

theorem latch_eq_or (i : ClockInterval) (spacing : Option ComplexSpacing) :
    i.latch spacing = spacing ∨ spacing = none ∧ i.complex = true := by
  cases spacing with
  | some spacing => exact .inl (i.latch_some spacing)
  | none =>
      cases hcomplex : i.complex with
      | false => exact .inl (by simp [latch, hcomplex])
      | true => exact .inr ⟨rfl, rfl⟩

end ClockInterval

/-- What judged intervals leave behind for the next one: the deviations that have added up since
the last slip, and the spacing that was chosen. -/
structure ClockMemory where
  driftPs : Float
  spacing : Option ComplexSpacing

namespace ClockInterval

/-- The event that an interval is told by after some others, and what it leaves behind. -/
inductive Tells (i : ClockInterval) (m : ClockMemory) : ClockMemory → ClockEvent → Prop where
  | rollover (crosses : i.actualPs < -364.0 * 86400.0 * 1e12) : Tells i m m .yearRollover
  | jump (stays : ¬ i.actualPs < -364.0 * 86400.0 * 1e12)
      (large : (i.deviationPs (i.latch m.spacing)).abs > 1000000.0) :
      Tells i m ⟨0.0, i.latch m.spacing⟩ (.jumpSlip (i.deviationPs (i.latch m.spacing)))
  | drift (stays : ¬ i.actualPs < -364.0 * 86400.0 * 1e12)
      (small : ¬ (i.deviationPs (i.latch m.spacing)).abs > 1000000.0)
      (large : (m.driftPs + i.deviationPs (i.latch m.spacing)).abs > 1000.0) :
      Tells i m ⟨0.0, i.latch m.spacing⟩
        (.accumulatorSlip (m.driftPs + i.deviationPs (i.latch m.spacing)))
  | consistent (stays : ¬ i.actualPs < -364.0 * 86400.0 * 1e12)
      (small : ¬ (i.deviationPs (i.latch m.spacing)).abs > 1000000.0)
      (within : ¬ (m.driftPs + i.deviationPs (i.latch m.spacing)).abs > 1000.0) :
      Tells i m ⟨m.driftPs + i.deviationPs (i.latch m.spacing), i.latch m.spacing⟩ .consistent

inductive Recalls : List ClockInterval → ClockMemory → Prop where
  | nil : Recalls [] ⟨0.0, none⟩
  | concat {is : List ClockInterval} {i : ClockInterval} {m next : ClockMemory}
      {event : ClockEvent} :
      Recalls is m → Tells i m next event → Recalls (is ++ [i]) next

end ClockInterval

namespace ClockTracker
open ClockCall ClockInterval

theorem expectation_eq (t : ClockTracker) (i : ClockInterval) :
    t.expectation i.actualPs i.perSamplePs i.complex =
      (i.expectedPs (i.latch t.spacing), i.latch t.spacing) := by
  cases hcomplex : i.complex with
  | false => simp [expectation, ClockInterval.expectedPs, ClockInterval.latch, hcomplex]
  | true =>
      have hchosen : t.chooseSpacing i.actualPs i.perSamplePs = t.spacing.getD i.nearest := rfl
      simp only [expectation, ClockInterval.expectedPs, ClockInterval.latch, hcomplex, if_true,
        true_and, hchosen, Option.some.injEq]
      cases t.spacing.getD i.nearest <;> rfl

/-- The tracker when it has measured an interval, but not yet weighed its deviation. -/
def measure (t : ClockTracker) (i : ClockInterval) : ClockTracker :=
  { t with
    expectedIncrementPs := some (i.expectedPs (i.latch t.spacing)).round.toInt64
    spacing := i.latch t.spacing }

inductive Judges (t : ClockTracker) (i : ClockInterval) : ClockTracker → ClockEvent → Prop where
  | rollover (crosses : i.CrossesYear) : Judges t i t .yearRollover
  | jump (stays : ¬ i.CrossesYear)
      (large : (i.deviationPs (i.latch t.spacing)).abs > jumpThresholdPs) :
      Judges t i { t.measure i with driftPs := 0.0, slips := t.slips + 1 }
        (.jumpSlip (i.deviationPs (i.latch t.spacing)))
  | drift (stays : ¬ i.CrossesYear)
      (small : ¬ (i.deviationPs (i.latch t.spacing)).abs > jumpThresholdPs)
      (large : (t.driftPs + i.deviationPs (i.latch t.spacing)).abs > accumulatorThresholdPs) :
      Judges t i { t.measure i with driftPs := 0.0, slips := t.slips + 1 }
        (.accumulatorSlip (t.driftPs + i.deviationPs (i.latch t.spacing)))
  | consistent (stays : ¬ i.CrossesYear)
      (small : ¬ (i.deviationPs (i.latch t.spacing)).abs > jumpThresholdPs)
      (within :
        ¬ (t.driftPs + i.deviationPs (i.latch t.spacing)).abs > accumulatorThresholdPs) :
      Judges t i
        { t.measure i with driftPs := t.driftPs + i.deviationPs (i.latch t.spacing) }
        .consistent

theorem judgeInterval_judges (t : ClockTracker) (i : ClockInterval) :
    Judges t i (t.judgeInterval i).1 (t.judgeInterval i).2 := by
  by_cases hcrosses : i.CrossesYear
  · have hjudged : t.judgeInterval i = (t, .yearRollover) := if_pos hcrosses
    rw [hjudged]
    exact .rollover hcrosses
  · have hjudged : t.judgeInterval i =
        (t.measure i).weigh (i.deviationPs (i.latch t.spacing)) := by
      have hstays : ¬ i.actualPs < rolloverThresholdPs := hcrosses
      rw [judgeInterval, judge, if_neg hstays, expectation_eq]
      rfl
    rw [hjudged, weigh]
    by_cases hjump : (i.deviationPs (i.latch t.spacing)).abs > jumpThresholdPs
    · rw [if_pos hjump]
      exact .jump hcrosses hjump
    · rw [if_neg hjump]
      by_cases hdrift :
          (t.driftPs + i.deviationPs (i.latch t.spacing)).abs > accumulatorThresholdPs
      · rw [if_pos (by exact hdrift)]
        exact .drift hcrosses hjump hdrift
      · rw [if_neg (by exact hdrift)]
        exact .consistent hcrosses hjump hdrift

section Judging
variable {t next : ClockTracker} {i : ClockInterval} {event : ClockEvent}

def memory (t : ClockTracker) : ClockMemory := ⟨t.driftPs, t.spacing⟩

theorem Judges.tells (h : Judges t i next event) : i.Tells t.memory next.memory event := by
  cases h with
  | rollover crosses => exact .rollover crosses
  | jump stays large => exact .jump stays large
  | drift stays small large => exact .drift stays small large
  | consistent stays small within => exact .consistent stays small within

theorem judgeAll_recalls (is : List ClockInterval) : Recalls is (judgeAll is).memory := by
  induction is using List.reverseRecOn with
  | nil => exact .nil
  | append_singleton is i ih =>
      rw [judgeAll_concat]
      exact .concat ih (judgeInterval_judges (judgeAll is) i).tells

theorem memory_bare (t : ClockTracker) : t.bare.memory = t.memory := rfl

theorem Judges.not_unchecked (h : Judges t i next event) : event ≠ .unchecked := by
  cases h <;> nofun

theorem Judges.not_seeded (h : Judges t i next event) : event ≠ .seeded := by
  cases h <;> nofun

end Judging

/-- After any calls, an observation is unchecked exactly if its header is not checkable. A
checkable one is seeded exactly if no header has been observed before it since the start or the
last reset, or the one right before it is not checkable, or 1024 frames or more are missing.
Otherwise the interval from the header right before it is judged, by the tag, the frame length and
the complex flag of that header and the number of missing frames. It crosses into the next year,
or deviates too far at once, or makes the deviations that were left over add up too far, or is
consistent, and what was left over comes from the intervals judged earlier and nothing else. A
frame whose number is repeated or falls back is not judged at all. -/
theorem observe_against_previous (log : List ClockCall) (h : Header) (missing : UInt16) :
    let event := ((after log).observe h missing).2
    (event = .unchecked ↔ ¬ h.Checkable) ∧
    (event = .seeded ↔ h.Checkable ∧
      (previous log = none ∨ (∃ last, previous log = some last ∧ ¬ last.Checkable) ∨
        1024 ≤ missing)) ∧
    (event ≠ .unchecked → event ≠ .seeded →
      ∃ last, previous log = some last ∧ last.Checkable ∧ h.Checkable ∧ missing < 1024 ∧
        ∃ memory next, Recalls (intervals log) memory ∧
          Tells (.between last h missing) memory next event) ∧
    (∀ (s : SequenceTracker) (n : UInt16),
      (n - h.sequenceNumber).toNat ≤ SequenceTracker.maxRegression →
      missing = ((s.accept n).1.accept h.sequenceNumber).2 →
      event = .unchecked ∨ event = .seeded) := by
  intro event
  rcases (after_refersTo log).observe_cases h missing with
    ⟨hcheck, hstep⟩ | ⟨hcheck, hnone, hstep⟩ | ⟨hcheck, i, hsome, hstep⟩
  · have hunchecked : event = .unchecked := congrArg Prod.snd hstep
    rw [hunchecked]
    exact ⟨iff_of_true rfl hcheck, iff_of_false nofun fun h => hcheck h.1,
      fun h => (h rfl).elim, fun _ _ _ _ => .inl rfl⟩
  · have hseeded : event = .seeded := congrArg Prod.snd hstep
    rw [hseeded]
    exact ⟨iff_of_false nofun (not_not_intro hcheck),
      iff_of_true rfl ⟨hcheck, (interval?_eq_none_iff hcheck).mp hnone⟩,
      fun _ h => (h rfl).elim, fun _ _ _ _ => .inr rfl⟩
  · obtain ⟨-, hfew, last, hlast, rfl⟩ := interval?_eq_some_iff.mp hsome
    obtain ⟨hprevious, hlastCheck⟩ := reference_eq_some_iff.mp hlast
    have hmemory : (after log).memory = (judgeAll (intervals log)).memory := by
      rw [← memory_bare, after_bare]
    have hjudges := judgeInterval_judges (after log) (.between last h missing)
    generalize (after log).judgeInterval (.between last h missing) = judged at hstep hjudges
    obtain ⟨next, told⟩ := judged
    have hevent : event = told := congrArg Prod.snd hstep
    rw [hevent]
    have htells := hjudges.tells
    rw [hmemory] at htells
    refine ⟨iff_of_false hjudges.not_unchecked (not_not_intro hcheck),
      iff_of_false hjudges.not_seeded ?_,
      fun _ _ => ⟨last, hprevious, hlastCheck, hcheck, hfew, _, _, judgeAll_recalls _, htells⟩, ?_⟩
    · rintro ⟨-, hwhy⟩
      rw [(interval?_eq_none_iff hcheck).mpr hwhy] at hsome
      cases hsome
    · intro s n hback hmissing
      have hmany := s.missing_of_regression hback
      rw [← hmissing] at hmany
      exact (UInt16.not_lt.mpr hmany hfew).elim

end ClockTracker

end SddsReceiver
