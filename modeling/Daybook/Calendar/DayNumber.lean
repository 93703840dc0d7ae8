import Daybook.Calendar.Date

namespace Daybook

namespace Calendar

/-- The number of the day before January 1 of the year. -/
def daysBeforeYear (year : Int) : Int :=
  365 * (year - 1) + (year - 1) / 4 - (year - 1) / 100 + (year - 1) / 400

/-- The year that holds the day with this number: 400 years have 146097 days, and the year so
    estimated is off by at most one. -/
def yearOfDay? (number : Int) : Option Int :=
  let estimate := 400 * (number - 1) / 146097 + 1
  [estimate, estimate - 1, estimate + 1].find? fun year =>
    daysBeforeYear year < number && number ≤ daysBeforeYear (year + 1)

/-- The month of the year that holds its day with this ordinal. -/
def monthOfOrdinal? (year : Int) (ordinal : Nat) : Option Nat :=
  [1, 2, 3, 4, 5, 6, 7, 8, 9, 10, 11, 12].find? fun month =>
    ordinal ≤ daysBeforeMonth year (month + 1)

/-- The most days that one step forward can cover, far more than the calendar has. -/
def maxStep : Nat := 2147483647

end Calendar

namespace Date

/-- The number of a date among the days of the calendar, 1 for January 1 of year 1. -/
def dayNumber (d : Date) : Int :=
  Calendar.daysBeforeYear d.year + d.ordinal

/-- The date with this number, if the calendar reaches so far. -/
def ofDayNumber? (number : Int) : Option Date := do
  let year ← Calendar.yearOfDay? number
  let ordinal := (number - Calendar.daysBeforeYear year).toNat
  let month ← Calendar.monthOfOrdinal? year ordinal
  ofYmd? year month (ordinal - Calendar.daysBeforeMonth year month)

/-- The days from `a` to `b`, negative when `b` is the earlier of the two. -/
def daysUntil (a b : Date) : Int :=
  b.dayNumber - a.dayNumber

/-- The date so many days on, if the step is not too wide and the calendar reaches so far. -/
def addDays? (d : Date) (days : Nat) : Option Date :=
  if days ≤ Calendar.maxStep then ofDayNumber? (d.dayNumber + days) else none

/-- The day of the week, 1 for Monday up to 7 for Sunday. -/
def weekday (d : Date) : Nat :=
  ((d.dayNumber - 1) % 7).toNat + 1

end Date

end Daybook
