/-!
# Years of the proleptic Gregorian calendar

The Unix second at which a year begins, and the year in which a Unix second lies. A year is
leap when it is divisible by four, unless it is divisible by a hundred and not by four hundred.
Counting leap days before a year in closed form gives the day on which it starts; the step from
one year to the next is the length of that year.
-/
namespace SddsReceiver.CivilYear

def secondsPerDay : Int := 86400

def isLeap (year : Int) : Bool :=
  year % 4 = 0 && (year % 100 != 0 || year % 400 = 0)

def length (year : Int) : Int :=
  if isLeap year then 366 else 365

/-- Days from 1 January of year 1 to 1 January of the given year. -/
def daysBefore (year : Int) : Int :=
  let past := year - 1
  365 * past + past / 4 - past / 100 + past / 400

/-- Days from 1 January of year 1 to 1 January 1970. -/
def daysBeforeUnix : Int := 719162

/-- The Unix second of 1 January, 00:00:00 UTC. -/
def startSecond (year : Int) : Int :=
  (daysBefore year - daysBeforeUnix) * secondsPerDay

/-- The years that the calendar covers. -/
def Supported (year : Int) : Prop :=
  -262143 ≤ year ∧ year ≤ 262142

instance (year : Int) : Decidable (Supported year) :=
  inferInstanceAs (Decidable (_ ∧ _))

theorem daysBefore_succ (year : Int) : daysBefore (year + 1) = daysBefore year + length year := by
  simp only [daysBefore, length, isLeap]
  by_cases h4 : year % 4 = 0 <;> by_cases h100 : year % 100 = 0 <;>
    by_cases h400 : year % 400 = 0 <;> simp [h4, h100, h400] <;> omega

/-- A year begins when the one before it has run its length. -/
theorem startSecond_succ (year : Int) :
    startSecond (year + 1) = startSecond year + length year * secondsPerDay := by
  simp only [startSecond, daysBefore_succ, secondsPerDay]
  omega

example : startSecond 1970 = 0 := by decide

theorem length_bounds (year : Int) : 365 ≤ length year ∧ length year ≤ 366 := by
  unfold length
  split <;> omega

theorem startSecond_mono {a b : Int} (h : a ≤ b) : startSecond a ≤ startSecond b := by
  simp only [startSecond, daysBefore, secondsPerDay]
  omega

/-- The year of a day, counted from 1 January of year 1: a guess by the mean length of a year,
moved by one year where it misses. -/
def ofDay (day : Int) : Int :=
  let year := day * 400 / 146097 + 1
  if day < daysBefore year then year - 1
  else if daysBefore (year + 1) ≤ day then year + 1
  else year

/-- The year in which a Unix second lies. -/
def containing (second : Int) : Int :=
  ofDay (second / secondsPerDay + daysBeforeUnix)

/-- 400 years have 146097 days, and within them the leap days run less than two days ahead of
their mean or behind it. -/
theorem daysBefore_mean (year : Int) :
    146097 * (year - 1) - 800 < 400 * daysBefore year ∧
      400 * daysBefore year < 146097 * (year - 1) + 800 := by
  simp only [daysBefore]
  omega

theorem ofDay_bounds (day : Int) :
    daysBefore (ofDay day) ≤ day ∧ day < daysBefore (ofDay day + 1) := by
  -- The guess misses by a year at most, since the years around it hold the day between them.
  have hbefore := daysBefore_mean (day * 400 / 146097 + 1 - 1)
  have hafter := daysBefore_mean (day * 400 / 146097 + 1 + 1 + 1)
  unfold ofDay
  dsimp only
  split
  · rw [Int.sub_add_cancel]
    omega
  · split <;> omega

theorem containing_bounds (second : Int) :
    startSecond (containing second) ≤ second ∧
      second < startSecond (containing second + 1) := by
  have hday := ofDay_bounds (second / secondsPerDay + daysBeforeUnix)
  simp only [startSecond, containing, secondsPerDay] at hday ⊢
  omega

theorem containing_eq_iff {second year : Int} :
    containing second = year ↔ startSecond year ≤ second ∧ second < startSecond (year + 1) := by
  have hbounds := containing_bounds second
  constructor
  · rintro rfl
    exact hbounds
  · intro h
    -- Of two years, the later one begins when the earlier one has ended.
    apply Int.le_antisymm
    · refine Int.not_lt.mp fun hlater => ?_
      have := startSecond_mono hlater
      omega
    · refine Int.not_lt.mp fun hearlier => ?_
      have := startSecond_mono hearlier
      omega

end SddsReceiver.CivilYear
