/-!
# The proleptic Gregorian calendar

Days are counted from the first of January 1970 and dates are years, months and days. The year of a
day is guessed from the mean length of a year and then moved by at most one, so both directions of
the conversion are short expressions in floor division.
-/

namespace AbandonedBikes

/-- A calendar date. Months and days start at one. -/
structure Date where
  year : Int
  month : Nat
  day : Nat
deriving DecidableEq, Repr

namespace Calendar

def isLeap (year : Int) : Bool :=
  decide (year % 4 = 0 ∧ (year % 100 ≠ 0 ∨ year % 400 = 0))

/-- The number of days from the start of year 0 to the start of `year`. -/
def yearStart (year : Int) : Int :=
  365 * year + (year + 3) / 4 - (year + 99) / 100 + (year + 399) / 400

/-- The year in which a day lies, for days counted from the start of year 0. -/
def yearOf (day : Int) : Int :=
  let guess := 400 * day / 146097
  if day < yearStart guess then guess - 1
  else if yearStart (guess + 1) ≤ day then guess + 1
  else guess

/-- The lengths of the twelve months. -/
def monthLengths (leap : Bool) : List Nat :=
  [31, if leap then 29 else 28, 31, 30, 31, 30, 31, 31, 30, 31, 30, 31]

/-- The days of the year before the given month. -/
def monthStart (leap : Bool) (month : Nat) : Nat :=
  ((monthLengths leap).take (month - 1)).foldl (· + ·) 0

/-- The length of a month, and zero if there is no such month. -/
def monthLength (leap : Bool) (month : Nat) : Nat :=
  if month = 0 then 0 else (monthLengths leap).getD (month - 1) 0

/-- Steps through months until the day of the year is inside one. -/
def splitDay (day month : Nat) : List Nat → Nat × Nat
  | [] => (month, day + 1)
  | length :: rest => if day < length then (month, day + 1) else splitDay (day - length) (month + 1) rest

/-- The day number of 1970-01-01 counted from the start of year 0. -/
def epochDay : Int := yearStart 1970

end Calendar

namespace Date

open Calendar

/-- Whether the date exists. -/
def valid (date : Date) : Bool :=
  decide (1 ≤ date.day ∧ date.day ≤ monthLength (isLeap date.year) date.month)

/-- The days from 1970-01-01 to the date. -/
def toDays (date : Date) : Int :=
  yearStart date.year + monthStart (isLeap date.year) date.month + date.day - 1 - epochDay

/-- The date that lies the given number of days after 1970-01-01. -/
def ofDays (days : Int) : Date :=
  let day := days + epochDay
  let year := yearOf day
  let (month, dayOfMonth) := splitDay (day - yearStart year).toNat 1 (monthLengths (isLeap year))
  ⟨year, month, dayOfMonth⟩

end Date

end AbandonedBikes
