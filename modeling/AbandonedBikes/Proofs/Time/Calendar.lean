import Mathlib.Algebra.Ring.Nat
import AbandonedBikes.Time.Instant
/-!
# Days and dates

A date is found from a number of days in two steps. The year comes first: a division guesses it, and
the guess is off by at most one. Then the day of the year is carried through the months. `toDays_ofDays`
says that counting the days of the date gives the number back, whichever day it is, and
`valid_ofDays` that the date exists.
-/

namespace AbandonedBikes

open Calendar

namespace Calendar

/-! ## Years -/

/-- The days of a year. -/
def yearLength (year : Int) : Nat := if isLeap year then 366 else 365

theorem yearStart_succ (year : Int) : yearStart (year + 1) = yearStart year + yearLength year := by
  simp only [yearLength, isLeap, decide_eq_true_eq, yearStart]
  split <;> omega

theorem yearStart_mono {year other : Int} (order : year ≤ other) :
    yearStart year ≤ yearStart other := by
  unfold yearStart
  omega

/-- The guess is off by at most one year. -/
theorem guess_near (day : Int) :
    yearStart (400 * day / 146097 - 1) ≤ day ∧ day < yearStart (400 * day / 146097 + 2) := by
  unfold yearStart
  omega

/-- A day lies in its year. -/
theorem yearOf_bounds (day : Int) :
    yearStart (yearOf day) ≤ day ∧ day < yearStart (yearOf day) + yearLength (yearOf day) := by
  rw [← yearStart_succ]
  obtain ⟨not_before, not_after⟩ := guess_near day
  fun_cases yearOf day with
  | case1 guess early => exact ⟨not_before, by rwa [Int.sub_add_cancel]⟩
  | case2 guess _ late => exact ⟨late, by rwa [Int.add_assoc]⟩
  | case3 guess begun not_over => exact ⟨Int.not_lt.mp begun, Int.not_le.mp not_over⟩

/-- The years that have begun on a day are its own and the earlier ones. -/
theorem yearStart_le_iff (year day : Int) : yearStart year ≤ day ↔ year ≤ yearOf day := by
  obtain ⟨begun, not_over⟩ := yearOf_bounds day
  rw [← yearStart_succ] at not_over
  constructor
  · intro started
    refine Int.not_lt.mp fun later => ?_
    have after := yearStart_mono (show yearOf day + 1 ≤ year from later)
    omega
  · intro not_later
    exact Int.le_trans (yearStart_mono not_later) begun

/-! ## Months -/

theorem monthStart_eq_sum (leap : Bool) (month : Nat) :
    monthStart leap month = ((monthLengths leap).take (month - 1)).sum := by
  rw [monthStart, List.sum_eq_foldl]

theorem sum_monthLengths (year : Int) : (monthLengths (isLeap year)).sum = yearLength year := by
  rw [yearLength]
  cases isLeap year <;> rfl

theorem monthLengths_le : ∀ leap, ∀ length ∈ monthLengths leap, length ≤ 31 := by decide

/-- A day that the months are long enough for ends up in one of them, after those that are over. -/
theorem splitDay_eq {lengths : List Nat} {day : Nat} (month : Nat) (inside : day < lengths.sum) :
    ∃ past, ∃ bound : past < lengths.length, ∃ rest, rest < lengths[past] ∧
      day = (lengths.take past).sum + rest ∧
      splitDay day month lengths = (month + past, rest + 1) := by
  -- Each month that is over takes its length off the day and one off the months that are left.
  induction lengths generalizing day month with
  | nil => simp at inside
  | cons length lengths ih =>
    rw [splitDay]
    split
    next short => exact ⟨0, by simp, day, short, by simp, rfl⟩
    next long =>
      rw [List.sum_cons] at inside
      have inside_rest : day - length < lengths.sum := by omega
      obtain ⟨past, bound, rest, within, sum, split⟩ := ih (month + 1) inside_rest
      refine ⟨past + 1, by simpa using bound, rest, by simpa using within, ?_, ?_⟩
      · rw [List.take_succ_cons, List.sum_cons]
        omega
      · rw [split]
        congr 1
        omega

end Calendar

namespace Date

/-- The date of a day, by the months of its year that are over. -/
theorem ofDays_eq (days : Int) :
    ∃ year past, ∃ bound : past < (monthLengths (isLeap year)).length, ∃ rest,
      rest < (monthLengths (isLeap year))[past] ∧
      days + epochDay = yearStart year + ((monthLengths (isLeap year)).take past).sum + rest ∧
      ofDays days = ⟨year, past + 1, rest + 1⟩ := by
  obtain ⟨begun, not_over⟩ := yearOf_bounds (days + epochDay)
  rw [← sum_monthLengths] at not_over
  have inside : (days + epochDay - yearStart (yearOf (days + epochDay))).toNat <
      (monthLengths (isLeap (yearOf (days + epochDay)))).sum := by omega
  obtain ⟨past, bound, rest, within, sum, found⟩ := splitDay_eq 1 inside
  refine ⟨_, past, bound, rest, within, by omega, ?_⟩
  rw [ofDays, found, Nat.add_comm]

theorem toDays_ofDays (days : Int) : (ofDays days).toDays = days := by
  obtain ⟨year, past, bound, rest, within, sum, date⟩ := ofDays_eq days
  simp only [date, toDays, monthStart_eq_sum, Nat.add_sub_cancel]
  omega

theorem valid_ofDays (days : Int) : (ofDays days).valid = true := by
  obtain ⟨year, past, bound, rest, within, sum, date⟩ := ofDays_eq days
  have length : monthLength (isLeap year) (past + 1) = (monthLengths (isLeap year))[past] := by
    rw [monthLength, if_neg past.succ_ne_zero, Nat.add_sub_cancel, List.getD_eq_getElem?_getD,
      List.getElem?_eq_getElem bound, Option.getD_some]
  rw [date, valid, decide_eq_true_eq, length]
  exact ⟨Nat.le_add_left 1 rest, within⟩

theorem month_ofDays_le (days : Int) : (ofDays days).month ≤ 12 := by
  obtain ⟨year, past, bound, rest, within, sum, date⟩ := ofDays_eq days
  rw [date]
  exact bound

theorem day_ofDays_le (days : Int) : (ofDays days).day ≤ 31 := by
  obtain ⟨year, past, bound, rest, within, sum, date⟩ := ofDays_eq days
  rw [date]
  exact Nat.le_trans within (monthLengths_le _ _ (List.getElem_mem bound))

end Date

/-- The days of the calendar are those whose years are between its first and its last one. -/
theorem Instant.inCalendar_iff {day : Int} : inCalendar day = true ↔
    firstYear ≤ (Date.ofDays day).year ∧ (Date.ofDays day).year ≤ lastYear := by
  have first : (⟨firstYear, 1, 1⟩ : Date).toDays = yearStart firstYear - epochDay := by decide
  have last : (⟨lastYear, 12, 31⟩ : Date).toDays = yearStart (lastYear + 1) - 1 - epochDay := by decide
  have year : (Date.ofDays day).year = yearOf (day + epochDay) := rfl
  have not_before := yearStart_le_iff firstYear (day + epochDay)
  have not_after := yearStart_le_iff (lastYear + 1) (day + epochDay)
  rw [inCalendar, decide_eq_true_eq, first, last, year]
  omega

end AbandonedBikes
