/-
This file shows that the days of the calendar and its dates are counted alike: the date of a day
exists, and its day is that day.

A day is brought to its place in the calendar first (`Place`): its cycle, the year of the cycle,
and the month and the day from March on. A place is turned into a date and into a number of days
without any choice but the one between the two calendar years that a year from March lies in. What
is left is where a day of a cycle falls, and there the one thing to show is that the quotient that
gives its year is right at both ends of the year.
-/

import ChatFlow.Time.Calendar
import Mathlib.Tactic.IntervalCases

namespace ChatFlow.Date

/-! ### The years of a cycle -/

/-- The days of a cycle before a year of it. -/
def yearStart (year : Int) : Int :=
  365 * year + year / 4 - year / 100

/-- The year of its cycle in which a day of the cycle lies. -/
def yearOfCycle (day : Int) : Int :=
  (day - day / 1460 + day / 36524 - day / 146096) / 365

/-- The year from March ends with the day that is sometimes missing. -/
def EndsLong (year : Int) : Prop :=
  year % 4 = 3 ∧ (year % 100 ≠ 99 ∨ year = 399)

section

variable {day year : Int} (least : 0 ≤ day) (most : day < cycleDays)
  (found : yearOfCycle day = year)

include least most found

theorem yearOfCycle_mem : 0 ≤ year ∧ year < 400 := by
  rw [cycleDays] at most
  rw [yearOfCycle] at found
  omega

/-- A day is in no earlier century by the days of its cycle than by the years. -/
theorem century_le : year / 100 ≤ day / 36524 := by
  rw [cycleDays] at most
  rw [yearOfCycle] at found
  by_contra behind
  have quarters : 25 * (year / 100) ≤ year / 4 := by omega
  have fours : year / 4 ≤ day / 1460 := by omega
  have first : day / 146096 = 0 := by omega
  omega

theorem yearStart_le : yearStart year ≤ day := by
  rw [cycleDays] at most
  rw [yearOfCycle] at found
  rw [yearStart]
  by_contra before
  -- A day before the year would be in an earlier century, or among fewer spans of four years.
  by_cases later : year / 100 + day / 146096 < day / 36524
  · omega
  · have fours : day / 1460 < year / 4 := by omega
    omega

theorem le_yearStart : day ≤ yearStart year + 365 := by
  have hundreds := century_le least most found
  rw [cycleDays] at most
  rw [yearOfCycle] at found
  rw [yearStart]
  by_contra beyond
  have fours : day / 1460 ≤ year / 4 + 1 := by omega
  omega

theorem endsLong_of_last (last : day = yearStart year + 365) : EndsLong year := by
  have hundreds := century_le least most found
  rw [cycleDays] at most
  rw [yearOfCycle] at found
  rw [yearStart] at last
  have fours : day / 1460 ≤ year / 4 + 1 := by omega
  refine ⟨?_, ?_⟩
  · by_contra other
    have same : day / 1460 ≤ year / 4 := by omega
    omega
  · omega

end

/-! ### Places in the calendar -/

/-- The days of a year before a month of it, both from March. -/
def monthStart (month : Int) : Int :=
  (153 * month + 2) / 5

/-- A day by its cycle, the year of the cycle, and the month and the day from March on, all counted
from zero. -/
structure Place where
  cycle : Int
  year : Int
  month : Int
  day : Int
  yearMem : 0 ≤ year ∧ year < 400
  monthMem : 0 ≤ month ∧ month < 12
  dayMem : 0 ≤ day ∧ day < monthStart (month + 1) - monthStart month
  inYear : monthStart month + day < 365 ∨ monthStart month + day = 365 ∧ EndsLong year

namespace Place

variable (place : Place)

/-- The date at a place. January and February are of the calendar year behind. -/
def date : Date where
  year := place.cycle * 400 + place.year + if place.month < 10 then 0 else 1
  month := (if place.month < 10 then place.month + 3 else place.month - 9).toNat
  day := (place.day + 1).toNat

/-- The days from the beginning of 1970 to a place. -/
def days : Int :=
  place.cycle * cycleDays + (yearStart place.year + (monthStart place.month + place.day)) -
    epochShift

theorem toDays_date : place.date.toDays = place.days := by
  obtain ⟨cycle, year, month, day, yearMem, monthMem, dayMem, -⟩ := place
  have cycles : (cycle * 400 + year) / 400 = cycle := by omega
  have years : (cycle * 400 + year) % 400 = year := by omega
  have days : ((day + 1).toNat : Int) = day + 1 := by omega
  by_cases early : month < 10
  · have months : ((month + 3).toNat : Int) - 3 = month := by omega
    rw [date, Place.days, toDays]
    simp only [if_pos early, if_neg (show ¬(month + 3).toNat ≤ 2 by omega),
      if_pos (show 2 < (month + 3).toNat by omega), months, days, add_zero, cycles, years]
    rw [yearStart, monthStart]
    omega
  · have months : ((month - 9).toNat : Int) + 9 = month := by omega
    rw [date, Place.days, toDays]
    simp only [if_neg early, if_pos (show (month - 9).toNat ≤ 2 by omega),
      if_neg (show ¬2 < (month - 9).toNat by omega), months, days, add_sub_cancel_right, cycles,
      years]
    rw [yearStart, monthStart]
    omega

theorem exists_date (least : firstYear ≤ place.date.year) (most : place.date.year ≤ lastYear) :
    place.date.exists? = true := by
  obtain ⟨cycle, year, month, day, yearMem, monthMem, dayMem, inYear⟩ := place
  rw [date] at least most ⊢
  simp only [exists?, Bool.and_eq_true, decide_eq_true_eq]
  refine ⟨⟨⟨⟨⟨least, most⟩, ?_⟩, ?_⟩, ?_⟩, ?_⟩
  · split <;> omega
  · split <;> omega
  · omega
  · clear least most
    obtain ⟨first, last⟩ := monthMem
    rw [EndsLong] at inYear
    simp only [daysInMonth, isLeapYear, monthStart] at dayMem inYear ⊢
    -- Every month from March has its own number of days; only the last one goes by the year.
    interval_cases month <;> simp at dayMem inYear ⊢ <;> omega

end Place

/-! ### Days and dates -/

/-- The day of its year on which a day of a cycle falls. -/
def dayOfYear (day : Int) : Int :=
  day - yearStart (yearOfCycle day)

/-- The month from March in which a day of a year lies. -/
def monthOfYear (day : Int) : Int :=
  (5 * day + 2) / 153

/-- The place of a day of a cycle. -/
def Place.within (cycle day : Int) (least : 0 ≤ day) (most : day < cycleDays) : Place :=
  have starts : 0 ≤ dayOfYear day := Int.sub_nonneg_of_le (yearStart_le least most rfl)
  have ends : dayOfYear day ≤ 365 := Int.sub_left_le_of_le_add (le_yearStart least most rfl)
  { cycle
    year := yearOfCycle day
    month := monthOfYear (dayOfYear day)
    day := dayOfYear day - monthStart (monthOfYear (dayOfYear day))
    yearMem := yearOfCycle_mem least most rfl
    monthMem := by
      rw [monthOfYear]
      omega
    dayMem := by
      rw [monthStart, monthStart, monthOfYear]
      omega
    inYear := by
      rw [add_sub_cancel]
      refine (lt_or_eq_of_le ends).imp_right fun last => ⟨last, ?_⟩
      exact endsLong_of_last least most rfl (by rw [← last, dayOfYear, add_sub_cancel]) }

/-- The place of a day in the calendar. -/
def Place.ofDays (days : Int) : Place :=
  within ((days + epochShift) / cycleDays) ((days + epochShift) % cycleDays)
    (Int.emod_nonneg _ (by decide)) (Int.emod_lt_of_pos _ (by decide))

/-- The date of a day is that of its place. -/
theorem date_ofDays (days : Int) : (Place.ofDays days).date = ofDays days := by
  obtain ⟨place, found⟩ : ∃ place, place = Place.ofDays days := ⟨_, rfl⟩
  have months := place.monthMem
  have counted : ofDays days =
      { year :=
          if (if place.month < 10 then place.month + 3 else place.month - 9) ≤ 2 then
            place.cycle * 400 + place.year + 1
          else place.cycle * 400 + place.year
        month := (if place.month < 10 then place.month + 3 else place.month - 9).toNat
        day := (place.day + 1).toNat } := by
    rw [found]
    rfl
  rw [← found, counted, Place.date]
  by_cases early : place.month < 10
  · rw [if_pos early, if_pos early, if_neg (by omega), add_zero]
  · rw [if_neg early, if_neg early, if_pos (by omega)]

theorem days_ofDays (days : Int) : (Place.ofDays days).days = days := by
  have whole := Int.mul_ediv_add_emod (days + epochShift) cycleDays
  rw [Place.days, Place.ofDays, Place.within]
  dsimp only
  rw [add_sub_cancel, dayOfYear, add_sub_cancel, mul_comm, whole, add_sub_cancel_right]

/-- The day of the date of a day is the day. -/
theorem toDays_ofDays (days : Int) : (ofDays days).toDays = days := by
  rw [← date_ofDays, Place.toDays_date, days_ofDays]

/-- The date of a day exists, if its year is in range. -/
theorem exists_ofDays {days : Int} (least : firstYear ≤ (ofDays days).year)
    (most : (ofDays days).year ≤ lastYear) : (ofDays days).exists? = true := by
  rw [← date_ofDays] at least most ⊢
  exact Place.exists_date _ least most

end ChatFlow.Date
