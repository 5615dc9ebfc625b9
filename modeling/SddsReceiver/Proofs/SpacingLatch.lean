import SddsReceiver.Proofs.ClockSlips

/-!
# The spacing of a complex stream

How the tags of a complex stream advance is told by the first interval that is judged and
starts at a complex frame. The choice made there holds until the tracker is reset, and every
later interval of the stream is expected at it. Intervals between real samples take no part in
this, wherever they stand among the others.

The intervals since a reset decide all of it, so it is proved for a tracker that judges a list
of intervals, one more at the end, and then read off for a log of calls.
-/
namespace SddsReceiver

/-- The event of an interval that has been judged by its length. -/
def ClockEvent.measures : ClockEvent → Bool
  | consistent | accumulatorSlip _ | jumpSlip _ => true
  | seeded | unchecked | yearRollover => false

namespace ClockInterval

/-- The intervals that are judged by their length: those within one year. -/
def withinYear (is : List ClockInterval) : List ClockInterval :=
  is.filter fun i => ¬ i.CrossesYear

theorem withinYear_concat (is : List ClockInterval) (i : ClockInterval) :
    withinYear (is ++ [i]) = withinYear is ++ if i.CrossesYear then [] else [i] := by
  rw [withinYear, List.filter_append]
  by_cases hcrosses : i.CrossesYear <;> simp [withinYear, hcrosses]

/-- The first interval that starts at a complex frame chooses the spacing. -/
def chosenSpacing (is : List ClockInterval) : Option ComplexSpacing :=
  (is.find? complex).map nearest

theorem chosenSpacing_concat (is : List ClockInterval) (i : ClockInterval) :
    chosenSpacing (is ++ [i]) = i.latch (chosenSpacing is) := by
  rw [chosenSpacing, List.find?_append]
  cases hfirst : is.find? complex with
  | some first => simp [chosenSpacing, hfirst, latch_some]
  | none => cases hcomplex : i.complex <;> simp [chosenSpacing, hfirst, latch, hcomplex]

end ClockInterval

namespace ClockTracker
open ClockCall ClockInterval

namespace Judges
variable {t next : ClockTracker} {i : ClockInterval} {event : ClockEvent}

theorem of_crosses (h : Judges t i next event) (hcrosses : i.CrossesYear) :
    event = .yearRollover ∧ next = t := by
  cases h with
  | rollover => exact ⟨rfl, rfl⟩
  | jump stays => exact absurd hcrosses stays
  | drift stays => exact absurd hcrosses stays
  | consistent stays => exact absurd hcrosses stays

/-- Within a year every judgement measures, however it ends. -/
theorem of_stays (h : Judges t i next event) (hstays : ¬ i.CrossesYear) :
    event.measures ∧ next.spacing = i.latch t.spacing ∧
      next.expectedIncrementPs = some (i.expectedPs (i.latch t.spacing)).round.toInt64 := by
  cases h with
  | rollover crosses => exact absurd crosses hstays
  | jump => exact ⟨rfl, rfl, rfl⟩
  | drift => exact ⟨rfl, rfl, rfl⟩
  | consistent => exact ⟨rfl, rfl, rfl⟩

theorem spacing_stays (h : Judges t i next event) {spacing : ComplexSpacing}
    (ht : t.spacing = some spacing) : next.spacing = some spacing := by
  by_cases hcrosses : i.CrossesYear
  · rw [(h.of_crosses hcrosses).2, ht]
  · rw [(h.of_stays hcrosses).2.1, ht, i.latch_some]

end Judges

theorem judgeAll_concat_judges (is : List ClockInterval) (i : ClockInterval) :
    ∃ event, Judges (judgeAll is) i (judgeAll (is ++ [i])) event :=
  ⟨_, judgeAll_concat is i ▸ judgeInterval_judges (judgeAll is) i⟩

/-- The spacing after judging is the one chosen by the first complex interval. -/
theorem judgeAll_spacing (is : List ClockInterval) :
    (judgeAll is).spacing = chosenSpacing (withinYear is) := by
  induction is using List.reverseRecOn with
  | nil => rfl
  | append_singleton is i ih =>
      obtain ⟨event, hjudges⟩ := judgeAll_concat_judges is i
      rw [withinYear_concat]
      by_cases hcrosses : i.CrossesYear
      · rw [(hjudges.of_crosses hcrosses).2, if_pos hcrosses, List.append_nil, ih]
      · rw [(hjudges.of_stays hcrosses).2.1, if_neg hcrosses, chosenSpacing_concat, ih]

/-- The increment on record is that of the last interval within a year. Its expectation was
formed at the spacing that is still latched. -/
theorem judgeAll_expectedIncrementPs (is : List ClockInterval) :
    (judgeAll is).expectedIncrementPs = (withinYear is).getLast?.map fun i =>
      (i.expectedPs (judgeAll is).spacing).round.toInt64 := by
  induction is using List.reverseRecOn with
  | nil => rfl
  | append_singleton is i ih =>
      obtain ⟨event, hjudges⟩ := judgeAll_concat_judges is i
      rw [withinYear_concat]
      by_cases hcrosses : i.CrossesYear
      · rw [(hjudges.of_crosses hcrosses).2, if_pos hcrosses, List.append_nil, ih]
      · obtain ⟨-, hspacing, hexpected⟩ := hjudges.of_stays hcrosses
        rw [hexpected, hspacing, if_neg hcrosses, List.getLast?_concat, Option.map_some]

theorem judgeInterval_real (t : ClockTracker) {i : ClockInterval} (hreal : i.complex = false)
    (spacing : Option ComplexSpacing) :
    { t with spacing := spacing }.judgeInterval i =
      ({ (t.judgeInterval i).1 with spacing := spacing }, (t.judgeInterval i).2) := by
  unfold judgeInterval judge
  by_cases hcrosses : i.actualPs < rolloverThresholdPs
  · rw [if_pos hcrosses, if_pos hcrosses]
  · rw [if_neg hcrosses, if_neg hcrosses, hreal]
    exact weigh_commutes
      { t with expectedIncrementPs := some i.perSamplePs.round.toInt64 }
      (fun u => { u with spacing := spacing }) (fun _ _ _ => rfl) (i.actualPs - i.perSamplePs)

section After
variable (log : List ClockCall) (h : Header) (missing : UInt16)

/-- The intervals since a reset that have been judged by their length. -/
def measured : List ClockInterval := withinYear (intervals log)

theorem measured_observe_of_none {log : List ClockCall} {h : Header} {missing : UInt16}
    (hnone : interval? log h missing = none) :
    measured (.observe h missing :: log) = measured log := by
  rw [measured, intervals, hnone, Option.toList_none, List.append_nil, measured]

theorem measured_observe_of_some {log : List ClockCall} {h : Header} {missing : UInt16}
    {i : ClockInterval} (hsome : interval? log h missing = some i) :
    measured (.observe h missing :: log) =
      measured log ++ if i.CrossesYear then [] else [i] := by
  rw [measured, intervals, hsome, Option.toList_some, withinYear_concat, measured]

/-- An observation adds the interval from the header right before it, or none. Which of the two
it is can be told from its event. -/
theorem measured_observe :
    let event := ((after log).observe h missing).2
    (event.measures → ∃ last, previous log = some last ∧
      measured (.observe h missing :: log) = measured log ++ [.between last h missing]) ∧
    (event.measures = false → measured (.observe h missing :: log) = measured log) := by
  rcases observe_judges log h missing with
    ⟨tag, periodPs, complex, event, hstep, hnone, rfl | rfl⟩ |
      ⟨i, next, event, hstep, hsome, hjudges⟩
  · rw [hstep]
    exact ⟨nofun, fun _ => measured_observe_of_none hnone⟩
  · rw [hstep]
    exact ⟨nofun, fun _ => measured_observe_of_none hnone⟩
  · obtain ⟨-, -, last, hlast, rfl⟩ := interval?_eq_some_iff.mp hsome
    rw [hstep, measured_observe_of_some hsome]
    by_cases hcrosses : (ClockInterval.between last h missing).CrossesYear
    · rw [(hjudges.of_crosses hcrosses).1, if_pos hcrosses]
      exact ⟨nofun, fun _ => List.append_nil _⟩
    · have hmeasures : event.measures := (hjudges.of_stays hcrosses).1
      rw [if_neg hcrosses]
      refine ⟨fun _ => ⟨last, (reference_eq_some_iff.mp hlast).1, rfl⟩, fun hnot => ?_⟩
      exact Bool.noConfusion (hmeasures.symm.trans hnot)

theorem observe_spacing_stays {spacing : ComplexSpacing}
    (hlatched : (after log).spacing = some spacing) :
    ((after log).observe h missing).1.spacing = some spacing := by
  rcases observe_judges log h missing with
    ⟨tag, periodPs, complex, event, hstep, -⟩ | ⟨i, next, event, hstep, -, hjudges⟩
  · rw [hstep]
    exact hlatched
  · rw [hstep]
    exact hjudges.spacing_stays hlatched

theorem after_append_spacing {spacing : ComplexSpacing}
    (hlatched : (after log).spacing = some spacing) {later : List ClockCall}
    (hlater : .reset ∉ later) : (after (later ++ log)).spacing = some spacing := by
  induction later with
  | nil => exact hlatched
  | cons c later ih =>
      rw [List.mem_cons, not_or] at hlater
      obtain ⟨hfirst, hrest⟩ := hlater
      cases c with
      | reset => exact absurd rfl hfirst
      | observe h missing => exact observe_spacing_stays (later ++ log) h missing (ih hrest)

end After

/-- After any calls the spacing is the one that the first measured interval from a complex frame
chose, the full one unless half of it is nearer to the actual interval. There is none before
that, and it is kept until a reset. The expected increment is that of the latest measured
interval, halved if that interval starts at a complex frame and the spacing is per pair. The
measured intervals are those between neighbours whose event is neither that of a new reference,
nor of a frame that cannot be judged, nor of a new year. An interval from a real frame is judged
alike whatever the spacing, and leaves it as it is. -/
theorem after_latches_spacing (log : List ClockCall) :
    let t := after log
    (t.spacing = ((measured log).find? ClockInterval.complex).map fun i =>
      if (i.actualPs - i.perSamplePs / 2.0).abs < (i.actualPs - i.perSamplePs).abs then .perPair
      else .perSample) ∧
    (t.expectedIncrementPs = (measured log).getLast?.map fun i =>
      (if i.complex ∧ t.spacing = some .perPair then i.perSamplePs / 2.0
        else i.perSamplePs).round.toInt64) ∧
    (∀ (later : List ClockCall) (spacing : ComplexSpacing), .reset ∉ later →
      t.spacing = some spacing → (after (later ++ log)).spacing = some spacing) ∧
    (∀ (h : Header) (missing : UInt16),
      let event := (t.observe h missing).2
      (event.measures → ∃ last, previous log = some last ∧
        measured (.observe h missing :: log) = measured log ++ [.between last h missing]) ∧
      (event.measures = false → measured (.observe h missing :: log) = measured log)) ∧
    ∀ (u : ClockTracker) (i : ClockInterval) (spacing : Option ComplexSpacing),
      i.complex = false →
        { u with spacing := spacing }.judgeInterval i =
          ({ (u.judgeInterval i).1 with spacing := spacing }, (u.judgeInterval i).2) := by
  intro t
  have hbare : t.bare = judgeAll (intervals log) := after_bare log
  have hspacing : t.spacing = (judgeAll (intervals log)).spacing :=
    (congrArg ClockTracker.spacing hbare :)
  have hexpected : t.expectedIncrementPs = (judgeAll (intervals log)).expectedIncrementPs :=
    (congrArg ClockTracker.expectedIncrementPs hbare :)
  refine ⟨?_, ?_, ?_, measured_observe log, fun u i spacing hreal => ?_⟩
  · rw [hspacing, judgeAll_spacing]
    rfl
  · rw [hexpected, judgeAll_expectedIncrementPs, ← hspacing]
    rfl
  · intro later spacing hlater hlatched
    exact after_append_spacing log hlatched hlater
  · exact judgeInterval_real u hreal spacing

end ClockTracker

end SddsReceiver
