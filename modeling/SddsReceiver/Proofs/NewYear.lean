import SddsReceiver.Timestamp
import Mathlib.Data.List.Chain
import Mathlib.Data.List.Induction

/-!
# Time tags over the years

A time tag says when in the year a moment lies and not in which year. An epoch tells the year
from the tags alone: it supposes a new year where a tag falls back by more than 182 days. Along
moments that never go back and never skip 183 days, this is right whatever the length of the
years. Within a year no tag falls back. Past a New Year a tag falls back by the length of the
year that ended, less the time skipped, and what is left is more than 182 days. No more than
one New Year lies between two such moments.

Tags that are not valid may come in between. They are stamped in the year reached so far.
-/
namespace SddsReceiver

namespace TimeTag

theorem subTicks_ofSubTicks {n : Nat} (h : n / partsPerTick < UInt64.size) :
    (ofSubTicks n).subTicks = n := by
  have hfraction : (UInt32.ofNat n).toNat = n % partsPerTick := UInt32.toNat_ofNat'
  rw [subTicks, ofSubTicks, UInt64.toNat_ofNat_of_lt' h, hfraction, Nat.mul_comm]
  exact Nat.div_add_mod n partsPerTick

theorem toNat_wholeSeconds (t : TimeTag) :
    t.wholeSeconds.toNat = t.subTicks / 17179869184000000000 := by
  have hfraction := t.fraction.toNat_lt
  have hseconds : t.wholeSeconds.toNat = t.ticks.toNat / 4000000000 := UInt64.toNat_div ..
  rw [hseconds, subTicks, partsPerTick]
  omega

end TimeTag

structure Instant where
  subTicks : Int
  deriving DecidableEq, Repr

namespace Instant

def perSecond : Int := 17179869184000000000

/-- The Unix second in which the moment lies. -/
def second (i : Instant) : Int := i.subTicks / perSecond

def year (i : Instant) : Int := CivilYear.containing i.second

/-- The time tag of the moment, which counts from the start of its year. -/
def tag (i : Instant) : TimeTag :=
  .ofSubTicks (i.subTicks - CivilYear.startSecond i.year * perSecond).toNat

/-- The second moment is the first or a later one, by less than 183 days. -/
def Precedes (a b : Instant) : Prop :=
  a.subTicks ≤ b.subTicks ∧ b.second - a.second < 183 * 86400

instance : DecidableRel Precedes := fun _ _ => inferInstanceAs (Decidable (_ ∧ _))

theorem year_eq_iff {i : Instant} {year : Int} :
    i.year = year ↔
      CivilYear.startSecond year ≤ i.second ∧ i.second < CivilYear.startSecond (year + 1) :=
  CivilYear.containing_eq_iff

/-- The tag loses nothing, for a year has fewer ticks than it can count. -/
theorem subTicks_tag (i : Instant) :
    (i.tag.subTicks : Int) = i.subTicks - CivilYear.startSecond i.year * perSecond := by
  obtain ⟨hstart, hend⟩ := year_eq_iff.mp (rfl : i.year = i.year)
  have hlength := CivilYear.length_bounds i.year
  rw [CivilYear.startSecond_succ, CivilYear.secondsPerDay] at hend
  rw [second, perSecond] at hstart hend
  obtain ⟨past, hpast⟩ : ∃ past : Nat,
      i.subTicks - CivilYear.startSecond i.year * perSecond = past :=
    Int.eq_ofNat_of_zero_le (by rw [perSecond]; omega)
  have hfits : past / TimeTag.partsPerTick < UInt64.size := by
    rw [perSecond] at hpast
    rw [TimeTag.partsPerTick, UInt64.size]
    omega
  rw [tag, hpast, Int.toNat_natCast, TimeTag.subTicks_ofSubTicks hfits]

theorem tag_wholeSeconds (i : Instant) :
    (i.tag.wholeSeconds.toNat : Int) = i.second - CivilYear.startSecond i.year := by
  have htag := i.subTicks_tag
  rw [perSecond] at htag
  rw [TimeTag.toNat_wholeSeconds, second, perSecond]
  omega

/-- Between two such moments the tag does not fall back within a year, and falls back by more
than 182 days into the next one. -/
theorem Precedes.wholeSeconds {a b : Instant} (h : a.Precedes b) :
    (b.year = a.year ∧ a.tag.wholeSeconds.toNat ≤ b.tag.wholeSeconds.toNat) ∨
      (b.year = a.year + 1 ∧
        b.tag.wholeSeconds.toNat + 182 * 86400 < a.tag.wholeSeconds.toNat) := by
  obtain ⟨hlater, hgap⟩ := h
  have hseconds : a.second ≤ b.second := by
    rw [second, second, perSecond]
    omega
  obtain ⟨hstart, hend⟩ := year_eq_iff.mp (rfl : a.year = a.year)
  have hlength := CivilYear.length_bounds a.year
  have hnext := CivilYear.startSecond_succ a.year
  have hnextButOne := CivilYear.startSecond_succ (a.year + 1)
  have hnextLength := CivilYear.length_bounds (a.year + 1)
  have hwholeA := a.tag_wholeSeconds
  have hwholeB := b.tag_wholeSeconds
  rw [CivilYear.secondsPerDay] at hnext hnextButOne
  by_cases hsame : b.second < CivilYear.startSecond (a.year + 1)
  · have hyear : b.year = a.year := year_eq_iff.mpr ⟨by omega, hsame⟩
    rw [hyear] at hwholeB
    exact .inl ⟨hyear, by omega⟩
  · have hyear : b.year = a.year + 1 := year_eq_iff.mpr ⟨Int.not_lt.mp hsame, by omega⟩
    rw [hyear] at hwholeB
    exact .inr ⟨hyear, by omega⟩

end Instant

inductive TagReading where
  | valid (moment : Instant)
  | invalid (tag : TimeTag)
  deriving DecidableEq, Repr

namespace TagReading

def tag : TagReading → TimeTag
  | valid moment => moment.tag
  | invalid tag => tag

def isValid : TagReading → Bool
  | valid _ => true
  | invalid _ => false

def moment? : TagReading → Option Instant
  | valid moment => some moment
  | invalid _ => none

def moments (readings : List TagReading) : List Instant :=
  readings.filterMap moment?

theorem moments_append (before after : List TagReading) :
    moments (before ++ after) = moments before ++ moments after :=
  List.filterMap_append

end TagReading

namespace YearEpoch
open TagReading

theorem rollsOver_iff {e : YearEpoch} {last : UInt64} (hlast : e.lastWhole = some last)
    (whole : UInt64) :
    e.rollsOver whole = true ↔ whole.toNat + 182 * 86400 < last.toNat := by
  have hseconds : rolloverSeconds.toNat = 182 * 86400 := rfl
  simp only [rollsOver, hlast, Bool.and_eq_true, decide_eq_true_eq, gt_iff_lt,
    UInt64.lt_iff_toNat_lt]
  constructor
  · rintro ⟨hlt, hfar⟩
    rw [UInt64.toNat_sub_of_le _ _ (UInt64.le_of_lt hlt)] at hfar
    omega
  · intro hfar
    have hlt : whole.toNat < last.toNat := by omega
    refine ⟨hlt, ?_⟩
    rw [UInt64.toNat_sub_of_le _ _ (UInt64.le_iff_toNat_le.mpr hlt.le)]
    omega

def readAll (e : YearEpoch) (readings : List TagReading) : YearEpoch :=
  readings.foldl (fun e r => (e.timestamp r.tag r.isValid).1) e

theorem readAll_concat (e : YearEpoch) (readings : List TagReading) (r : TagReading) :
    e.readAll (readings ++ [r]) = ((e.readAll readings).timestamp r.tag r.isValid).1 :=
  List.foldl_concat ..

/-- The epoch in the year of a moment, right after its tag. -/
def ofMoment (i : Instant) : YearEpoch := ⟨i.year, startOf i.year, some i.tag.wholeSeconds⟩

/-- The epoch after the latest moment of a stream that starts in a given year. -/
def reached (first : Int) (last : Option Instant) : YearEpoch :=
  (last.map ofMoment).getD (ofYear first)

/-- The year of the latest moment, or the one in which the stream starts. -/
def currentYear (first : Int) (last : Option Instant) : Int :=
  (last.map Instant.year).getD first

theorem reached_year (first : Int) (last : Option Instant) :
    (reached first last).year = currentYear first last ∧
      (reached first last).startSecond = startOf (currentYear first last) := by
  cases last <;> exact ⟨rfl, rfl⟩

/-- A moment may be the next one of a stream, or the first in its first year. -/
def MayFollow (first : Int) : Option Instant → Instant → Prop
  | none, i => i.year = first
  | some last, i => last.Precedes i

theorem advance_moment {first : Int} {last : Option Instant} {i : Instant}
    (h : MayFollow first last i) : (reached first last).advance i.tag true = ofMoment i := by
  cases last with
  | none =>
      have hyear : i.year = first := h
      rw [ofMoment, hyear]
      rfl
  | some last =>
      have hrolls := rollsOver_iff (rfl : (ofMoment last).lastWhole = _) i.tag.wholeSeconds
      change (ofMoment last).advance i.tag true = _
      rw [advance, if_pos rfl, ofMoment.eq_1 i]
      rcases Instant.Precedes.wholeSeconds h with ⟨hyear, hforth⟩ | ⟨hyear, hback⟩
      · rw [if_neg (hrolls.not.mpr (by omega)), hyear]
        rfl
      · rw [if_pos (hrolls.mpr hback), hyear]
        rfl

/-- Along moments that may follow one another, the epoch is the one of the latest moment,
whatever comes in between. -/
theorem readAll_eq_reached {first : Int} (readings : List TagReading)
    (h : ∀ earlier i, earlier ++ [i] <+: moments readings →
      MayFollow first earlier.getLast? i) :
    (ofYear first).readAll readings = reached first (moments readings).getLast? := by
  induction readings using List.reverseRecOn with
  | nil => rfl
  | append_singleton before r ih =>
      rw [moments_append] at h
      have hbefore := ih fun earlier i hfront =>
        h earlier i (hfront.trans (List.prefix_append _ _))
      rw [readAll_concat, hbefore, moments_append]
      cases r with
      | invalid tag =>
          rw [show moments [TagReading.invalid tag] = [] from rfl, List.append_nil]
          exact advance_invalid _ tag
      | valid i =>
          have hnext : MayFollow first (moments before).getLast? i :=
            h (moments before) i (List.prefix_refl _)
          rw [show moments [TagReading.valid i] = [i] from rfl, List.getLast?_concat]
          exact advance_moment hnext

/-- The moments of a stream, none of which goes back or skips 183 days, may follow one another
from the year of the first one on. -/
theorem mayFollow_of_isChain {first : Int} {moments earlier : List Instant} {i : Instant}
    (hfirst : ∀ i ∈ moments.head?, i.year = first)
    (hsteps : moments.IsChain Instant.Precedes) (hfront : earlier ++ [i] <+: moments) :
    MayFollow first earlier.getLast? i := by
  cases hlast : earlier.getLast? with
  | none =>
      obtain ⟨rest, rfl⟩ := hfront
      obtain rfl := List.getLast?_eq_none_iff.mp hlast
      exact hfirst i (by simp)
  | some last =>
      have hchain := hsteps.prefix hfront
      exact (List.isChain_append.mp hchain).2.2 last hlast i rfl

/-- Take a stream of tags whose moments start in a given year, never go back, skip less than
183 days at a time and stay within the calendar, with tags in between that are not valid. After
the tag of a moment the epoch is in the year of the moment, and from its start on the tag counts
up to the second of the moment. A tag that is not valid leaves the epoch in the year of the
latest moment and is stamped in it. -/
theorem timestamp_follows_calendar {first : Int} {readings : List TagReading}
    (hfirst : ∀ i ∈ (moments readings).head?, i.year = first)
    (hsteps : (moments readings).IsChain Instant.Precedes)
    (hcalendar : ∀ i ∈ moments readings, CivilYear.Supported i.year) :
    ∀ before r after, readings = before ++ r :: after →
      let e := (ofYear first).readAll before
      let current := currentYear first (moments before).getLast?
      let next := (e.timestamp r.tag r.isValid).1
      let stamp := (e.timestamp r.tag r.isValid).2
      match r with
      | .valid i =>
          next.year = i.year ∧
          next.startSecond = CivilYear.startSecond i.year ∧
          next.startSecond + i.tag.wholeSeconds.toNat = i.second ∧
          stamp = ⟨.timeTag, true, 0.0, Rounding.ofInt i.second, i.tag.fractionalSeconds⟩
      | .invalid tag =>
          next = e ∧
          (e.year = current ∧ e.startSecond = startOf current) ∧
          stamp = ⟨.timeTag, false, 0.0,
            Rounding.ofInt (startOf current + tag.wholeSeconds.toNat), tag.fractionalSeconds⟩ := by
  rintro before r after rfl
  intro e current next stamp
  have hreached : e = reached first (moments before).getLast? := by
    refine readAll_eq_reached before fun earlier i hfront => ?_
    refine mayFollow_of_isChain hfirst hsteps (hfront.trans ?_)
    rw [moments_append]
    exact List.prefix_append _ _
  cases r with
  | invalid tag =>
      have hcurrent : e.year = current ∧ e.startSecond = startOf current :=
        hreached ▸ reached_year first (moments before).getLast?
      refine ⟨rfl, hcurrent, ?_⟩
      change e.stamp tag false = _
      rw [YearEpoch.stamp, hcurrent.2]
  | valid i =>
      have hmoments : moments (before ++ .valid i :: after) =
          moments before ++ i :: moments after := moments_append _ _
      have hsupported : CivilYear.Supported i.year := hcalendar i (by simp [hmoments])
      have hfollow : MayFollow first (moments before).getLast? i := by
        refine mayFollow_of_isChain hfirst hsteps ⟨moments after, ?_⟩
        rw [hmoments, List.append_assoc, List.singleton_append]
      have hnext : next = ofMoment i := by
        change e.advance i.tag true = _
        rw [hreached]
        exact advance_moment hfollow
      have hstart : next.startSecond = CivilYear.startSecond i.year := by
        rw [hnext]
        exact if_pos hsupported
      have hsecond : next.startSecond + i.tag.wholeSeconds.toNat = i.second := by
        rw [hstart, i.tag_wholeSeconds]
        omega
      refine ⟨by rw [hnext]; rfl, hstart, hsecond, ?_⟩
      change next.stamp i.tag true = _
      rw [YearEpoch.stamp, hsecond]

/-- A leap year ends, with a tag in between that is not valid, and the year after it ends while
half a year is skipped. -/
theorem timestamp_follows_calendar_twice :
    let last : Instant := ⟨1767225600 * Instant.perSecond⟩
    let before : List TagReading := [.valid ⟨1735689599 * Instant.perSecond⟩, .invalid .zero,
      .valid ⟨1735689600 * Instant.perSecond⟩, .valid ⟨1751500799 * Instant.perSecond⟩]
    let readings := before ++ [.valid last]
    ((∀ i ∈ (moments readings).head?, i.year = 2024) ∧
      (moments readings).IsChain Instant.Precedes ∧
      ∀ i ∈ moments readings, CivilYear.Supported i.year) ∧
    (((ofYear 2024).readAll before).timestamp last.tag true).1.year = 2026 ∧
    (((ofYear 2024).readAll before).timestamp last.tag true).2 =
      ⟨.timeTag, true, 0.0, Rounding.ofInt 1767225600, last.tag.fractionalSeconds⟩ := by
  intro last before readings
  have hfirst : ∀ i ∈ (moments readings).head?, i.year = 2024 := by decide
  have hsteps : (moments readings).IsChain Instant.Precedes := by decide
  have hcalendar : ∀ i ∈ moments readings, CivilYear.Supported i.year := by decide
  obtain ⟨hyear, -, -, hstamp⟩ :=
    timestamp_follows_calendar hfirst hsteps hcalendar before (.valid last) [] rfl
  have hlast : last.year = 2026 := by decide
  have hsecond : last.second = 1767225600 := by decide
  exact ⟨⟨hfirst, hsteps, hcalendar⟩, hyear.trans hlast, hsecond ▸ hstamp⟩

end YearEpoch

end SddsReceiver
