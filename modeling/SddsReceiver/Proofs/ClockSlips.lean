import SddsReceiver.Proofs.ClockJudgement

/-!
# Drift and slips

Judging an interval has four outcomes. One that crosses into the next year changes nothing. A
jump and a drift beyond its threshold are counted and leave no drift. Any other deviation is
added to the drift, which therefore stays within the threshold.

So the number of slips is that of the slip events since the last reset, and no drift beyond the
threshold is ever kept: it has been reported.
-/
namespace SddsReceiver

namespace ClockTracker
open ClockCall

/-- The drift that is kept has passed the test against the threshold, or there is none. -/
def DriftWithin (t : ClockTracker) : Prop :=
  t.driftPs = 0.0 ∨ ¬ t.driftPs.abs > accumulatorThresholdPs

namespace Judges
variable {t next : ClockTracker} {i : ClockInterval} {event : ClockEvent}

theorem slips_eq (h : Judges t i next event) :
    next.slips = t.slips + if event.isSlip then 1 else 0 := by
  cases h <;> rfl

theorem driftWithin (h : Judges t i next event) (ht : t.DriftWithin) : next.DriftWithin := by
  cases h with
  | rollover => exact ht
  | jump => exact .inl rfl
  | drift => exact .inl rfl
  | consistent stays small within => exact .inr within

theorem drift_of_slip (h : Judges t i next event) (hslip : event.isSlip) : next.driftPs = 0.0 := by
  cases h with
  | rollover => cases hslip
  | jump => rfl
  | drift => rfl
  | consistent => cases hslip

theorem of_consistent (h : Judges t i next .consistent) :
    next = { t with
      driftPs := next.driftPs
      expectedIncrementPs := next.expectedIncrementPs
      spacing := next.spacing } ∧
    (next.spacing = t.spacing ∨ t.spacing = none ∧ i.complex = true) := by
  cases h
  exact ⟨rfl, i.latch_eq_or t.spacing⟩

end Judges

/-- The events since the start or a reset, the latest first. -/
def events : List ClockCall → List ClockEvent
  | .observe h missing :: earlier => ((after earlier).observe h missing).2 :: events earlier
  | _ => []

section After
variable (log : List ClockCall) (h : Header) (missing : UInt16)

/-- What an observation after a log does: it judges an interval and takes the frame for its
reference, or it judges none and changes the reference alone. -/
theorem observe_judges :
    (∃ tag periodPs complex event,
      (after log).observe h missing = ((after log).withReference tag periodPs complex, event) ∧
        interval? log h missing = none ∧ (event = .unchecked ∨ event = .seeded)) ∨
    ∃ i next event, (after log).observe h missing = (next.seed h h.framePs, event) ∧
      interval? log h missing = some i ∧ Judges (after log) i next event := by
  rcases (after_refersTo log).observe_cases h missing with
    ⟨hcheck, hstep⟩ | ⟨-, hnone, hstep⟩ | ⟨-, i, hsome, hstep⟩
  · exact .inl ⟨none, none, (after log).complex, .unchecked, hstep,
      interval?_unchecked hcheck, .inl rfl⟩
  · exact .inl ⟨some h.time, some h.framePs, h.complex, .seeded, hstep, hnone, .inr rfl⟩
  · exact .inr ⟨i, _, _, hstep, hsome, judgeInterval_judges _ i⟩

theorem observe_slips :
    ((after log).observe h missing).1.slips =
      (after log).slips + if ((after log).observe h missing).2.isSlip then 1 else 0 := by
  rcases observe_judges log h missing with
    ⟨tag, periodPs, complex, event, hstep, -, rfl | rfl⟩ | ⟨i, next, event, hstep, -, hjudges⟩
  · rw [hstep]
    rfl
  · rw [hstep]
    rfl
  · rw [hstep]
    exact hjudges.slips_eq

theorem observe_driftWithin (ht : (after log).DriftWithin) :
    ((after log).observe h missing).1.DriftWithin := by
  rcases observe_judges log h missing with
    ⟨tag, periodPs, complex, event, hstep, -⟩ | ⟨i, next, event, hstep, -, hjudges⟩
  · rw [hstep]
    exact ht
  · rw [hstep]
    exact hjudges.driftWithin ht

theorem after_counts_slips : (after log).slips = (events log).countP ClockEvent.isSlip := by
  induction log with
  | nil => rfl
  | cons c earlier ih =>
      cases c with
      | reset => rfl
      | observe h missing =>
          rw [after, call, observe_slips, events, List.countP_cons, ih]

theorem after_driftWithin : (after log).DriftWithin := by
  induction log with
  | nil => exact .inl rfl
  | cons c earlier ih =>
      cases c with
      | reset => exact .inl rfl
      | observe h missing => exact observe_driftWithin earlier h missing ih

end After

/-- After any calls the number of slips is that of the slip events since the last reset, and
the drift is none or within its threshold. A slip leaves no drift. A frame that becomes the
reference, cannot be judged or crosses into the next year leaves all that has been learnt from
earlier ones. And a consistent frame becomes the reference and changes the drift and the
expected increment, and the spacing if none has been latched and the frame before it is
complex; nothing else changes. -/
theorem after_reports_drift (log : List ClockCall) :
    let t := after log
    t.slips = (events log).countP ClockEvent.isSlip ∧
    (t.driftPs = 0.0 ∨ ¬ t.driftPs.abs > 1000.0) ∧
    ∀ (h : Header) (missing : UInt16),
      let next := (t.observe h missing).1
      let event := (t.observe h missing).2
      (event.isSlip → next.driftPs = 0.0) ∧
      (event = .seeded ∨ event = .unchecked ∨ event = .yearRollover →
        next.driftPs = t.driftPs ∧ next.slips = t.slips ∧
          next.expectedIncrementPs = t.expectedIncrementPs ∧ next.spacing = t.spacing) ∧
      (event = .consistent →
        next = { t with
          lastTag := some h.time
          periodPs := some h.framePs
          complex := h.complex
          driftPs := next.driftPs
          expectedIncrementPs := next.expectedIncrementPs
          spacing := next.spacing } ∧
        (next.spacing = t.spacing ∨
          t.spacing = none ∧ ∃ last, previous log = some last ∧ last.complex = true)) := by
  intro t
  refine ⟨after_counts_slips log, after_driftWithin log, fun h missing => ?_⟩
  intro next event
  rcases observe_judges log h missing with
    ⟨tag, periodPs, complex, told, hstep, -, hkind⟩ | ⟨i, judged, told, hstep, hsome, hjudges⟩
  · have hnext : next = t.withReference tag periodPs complex := congrArg Prod.fst hstep
    have hevent : event = told := congrArg Prod.snd hstep
    rw [hnext, hevent]
    rcases hkind with rfl | rfl
    · exact ⟨nofun, fun _ => ⟨rfl, rfl, rfl, rfl⟩, nofun⟩
    · exact ⟨nofun, fun _ => ⟨rfl, rfl, rfl, rfl⟩, nofun⟩
  · have hnext : next = judged.seed h h.framePs := congrArg Prod.fst hstep
    have hevent : event = told := congrArg Prod.snd hstep
    obtain ⟨-, -, last, hlast, rfl⟩ := interval?_eq_some_iff.mp hsome
    rw [hnext, hevent]
    refine ⟨hjudges.drift_of_slip, ?_, ?_⟩
    · rintro (rfl | rfl | rfl)
      · cases hjudges
      · cases hjudges
      · cases hjudges
        exact ⟨rfl, rfl, rfl, rfl⟩
    · rintro rfl
      obtain ⟨hfields, hspacing⟩ := hjudges.of_consistent
      refine ⟨?_, hspacing.imp_right fun hfirst => ?_⟩
      · rw [hfields]
        rfl
      · exact ⟨hfirst.1, last, (reference_eq_some_iff.mp hlast).1, hfirst.2⟩

end ClockTracker

end SddsReceiver
