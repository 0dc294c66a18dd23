import Mathlib.Algebra.Group.Int.Defs
import Mathlib.Tactic.Common

/-!
# The calendar

Days and seconds since the beginning of 1970 as dates and times of day of the Gregorian calendar,
which goes on in both directions, and back. Years are counted from March here: the leap day is the
last day then, and a month begins a fixed number of days after the year does.
-/

namespace Calendar

/-- A date and a time of day. -/
structure Civil where
  year : Int
  month : Int
  day : Int
  hour : Int
  minute : Int
  second : Int
  deriving DecidableEq

/-- The days from 1 March of the year 0 to 1 March of a year. -/
def daysBeforeYear (year : Int) : Int := 365 * year + year / 4 - year / 100 + year / 400

/-- The days from 1 March to the first of a month. -/
def daysBeforeMonth (monthFromMarch : Int) : Int := (153 * monthFromMarch + 2) / 5

/-- The days from 1 March of the year 0 to the beginning of 1970. -/
def epoch : Int := 719468

def toDays (year month day : Int) : Int :=
  if month ≤ 2 then
    daysBeforeYear (year - 1) + daysBeforeMonth (month + 9) + (day - 1) - epoch
  else daysBeforeYear year + daysBeforeMonth (month - 3) + (day - 1) - epoch

/-- The year that begins in March, and the day in it. -/
def ofDaysFromMarch (days : Int) : Int × Int :=
  let cycle := days / 146097
  let days := days % 146097
  -- the last century of a cycle and the last year of four are longer by a day
  let century := min (days / 36524) 3
  let days := days - 36524 * century
  let four := days / 1461
  let days := days % 1461
  let one := min (days / 365) 3
  (400 * cycle + 100 * century + 4 * four + one, days - 365 * one)

def ofDays (days : Int) : Int × Int × Int :=
  let (year, dayOfYear) := ofDaysFromMarch (days + epoch)
  let month := (5 * dayOfYear + 2) / 153
  let day := dayOfYear - daysBeforeMonth month + 1
  if month < 10 then (year, month + 3, day) else (year + 1, month - 9, day)

/-- The seconds since the beginning of 1970. -/
def Civil.toSeconds (c : Civil) : Int :=
  86400 * toDays c.year c.month c.day + 3600 * c.hour + 60 * c.minute + c.second

def Civil.ofSeconds (seconds : Int) : Civil :=
  let (year, month, day) := ofDays (seconds / 86400)
  { year, month, day
    hour := seconds % 86400 / 3600
    minute := seconds % 3600 / 60
    second := seconds % 60 }

example : (Civil.ofSeconds 951868799).toSeconds = 951868799 ∧
    ofDays 11016 = (2000, 2, 29) ∧ ofDays (-1) = (1969, 12, 31) := by decide

/-! ## There and back -/

theorem ofDaysFromMarch_spec (days : Int) :
    daysBeforeYear (ofDaysFromMarch days).1 + (ofDaysFromMarch days).2 = days ∧
      0 ≤ (ofDaysFromMarch days).2 ∧ (ofDaysFromMarch days).2 ≤ 365 := by
  have hcycle : 0 ≤ days % 146097 ∧ days % 146097 < 146097 := by omega
  have hdays : 146097 * (days / 146097) + days % 146097 = days := Int.mul_ediv_add_emod days 146097
  unfold ofDaysFromMarch
  dsimp only
  generalize days / 146097 = cycle at *
  generalize days % 146097 = rest at *
  obtain ⟨hge, hlt⟩ := hcycle
  have hcentury : 0 ≤ min (rest / 36524) 3 ∧ min (rest / 36524) 3 ≤ 3 ∧
      0 ≤ rest - 36524 * min (rest / 36524) 3 ∧
      (rest - 36524 * min (rest / 36524) 3 < 36524 ∨
        min (rest / 36524) 3 = 3 ∧ rest - 36524 * min (rest / 36524) 3 ≤ 36524) := by omega
  generalize min (rest / 36524) 3 = century at *
  generalize hrest' : rest - 36524 * century = rest' at *
  have hfour : 0 ≤ rest' / 1461 ∧ rest' / 1461 ≤ 24 ∧ 0 ≤ rest' % 1461 ∧ rest' % 1461 < 1461 ∧
      1461 * (rest' / 1461) + rest' % 1461 = rest' := by omega
  generalize rest' / 1461 = four at *
  generalize rest' % 1461 = rest'' at *
  have hone : 0 ≤ min (rest'' / 365) 3 ∧ min (rest'' / 365) 3 ≤ 3 ∧
      0 ≤ rest'' - 365 * min (rest'' / 365) 3 ∧ rest'' - 365 * min (rest'' / 365) 3 ≤ 365 := by omega
  generalize min (rest'' / 365) 3 = one at *
  have hdiv4 : (400 * cycle + 100 * century + 4 * four + one) / 4 =
      100 * cycle + 25 * century + four := by omega
  have hdiv100 : (400 * cycle + 100 * century + 4 * four + one) / 100 = 4 * cycle + century := by
    omega
  have hdiv400 : (400 * cycle + 100 * century + 4 * four + one) / 400 = cycle := by omega
  unfold daysBeforeYear
  rw [hdiv4, hdiv100, hdiv400]
  omega

/-- A day of the year in its month. -/
theorem month_spec {dayOfYear : Int} (hge : 0 ≤ dayOfYear) (hle : dayOfYear ≤ 365) :
    0 ≤ (5 * dayOfYear + 2) / 153 ∧ (5 * dayOfYear + 2) / 153 ≤ 11 ∧
      0 ≤ dayOfYear - daysBeforeMonth ((5 * dayOfYear + 2) / 153) ∧
      dayOfYear - daysBeforeMonth ((5 * dayOfYear + 2) / 153) ≤ 30 := by
  unfold daysBeforeMonth
  omega

/-- The date of a day: it is that day, and its parts are what they should be. -/
theorem ofDays_spec (days : Int) :
    toDays (ofDays days).1 (ofDays days).2.1 (ofDays days).2.2 = days ∧
      (1 ≤ (ofDays days).2.1 ∧ (ofDays days).2.1 ≤ 12) ∧
      1 ≤ (ofDays days).2.2 ∧ (ofDays days).2.2 ≤ 31 := by
  obtain ⟨hdays, hge, hle⟩ := ofDaysFromMarch_spec (days + epoch)
  unfold ofDays
  generalize ofDaysFromMarch (days + epoch) = found at *
  obtain ⟨year, dayOfYear⟩ := found
  dsimp only at hdays hge hle ⊢
  obtain ⟨hmonth, hmonth', hday, hday'⟩ := month_spec hge hle
  generalize (5 * dayOfYear + 2) / 153 = month at *
  by_cases hten : month < 10
  · rw [if_pos hten]
    have hnot : ¬ month + 3 ≤ 2 := by omega
    refine ⟨?_, by dsimp only; omega, by dsimp only; omega⟩
    dsimp only [toDays]
    rw [if_neg hnot, Int.add_sub_cancel]
    omega
  · rw [if_neg hten]
    have hle : month - 9 ≤ 2 := by omega
    refine ⟨?_, by dsimp only; omega, by dsimp only; omega⟩
    dsimp only [toDays]
    rw [if_pos hle, Int.add_sub_cancel, Int.sub_add_cancel]
    omega

/-- The parts of a date and time are in their ranges, whatever the year. -/
structure Civil.InRange (c : Civil) : Prop where
  month : 1 ≤ c.month ∧ c.month ≤ 12
  day : 1 ≤ c.day ∧ c.day ≤ 31
  hour : 0 ≤ c.hour ∧ c.hour ≤ 23
  minute : 0 ≤ c.minute ∧ c.minute ≤ 59
  second : 0 ≤ c.second ∧ c.second ≤ 59

theorem Civil.inRange_ofSeconds (seconds : Int) : (Civil.ofSeconds seconds).InRange := by
  obtain ⟨-, hmonth, hday⟩ := ofDays_spec (seconds / 86400)
  refine ⟨hmonth, hday, ?_, ?_, ?_⟩
  all_goals
    dsimp only [Civil.ofSeconds]
    omega

/-- **There and back.** -/
theorem Civil.toSeconds_ofSeconds (seconds : Int) :
    (Civil.ofSeconds seconds).toSeconds = seconds := by
  obtain ⟨hdays, -⟩ := ofDays_spec (seconds / 86400)
  dsimp only [Civil.toSeconds, Civil.ofSeconds]
  rw [hdays]
  omega

end Calendar
