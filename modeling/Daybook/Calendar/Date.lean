namespace Daybook

namespace Calendar

def minYear : Int := -262143

def maxYear : Int := 262142

/-- A year is leap when 4 divides it, but among the centuries only when 400 does. -/
def isLeapYear (year : Int) : Bool :=
  year.tmod 4 == 0 && (year.tmod 100 != 0 || year.tmod 400 == 0)

/-- The Gregorian table of month lengths. A number that is no month has length 0. -/
def monthLength (year : Int) : Nat → Nat
  | 1 | 3 | 5 | 7 | 8 | 10 | 12 => 31
  | 4 | 6 | 9 | 11 => 30
  | 2 => if isLeapYear year then 29 else 28
  | _ => 0

/-- The days of the year that come before the first of the month. -/
def daysBeforeMonth (year : Int) : Nat → Nat
  | 0 => 0
  | month + 1 => daysBeforeMonth year month + monthLength year month

/-- Year, month and day name a date of the calendar. The month needs no condition of its own, as a
    number that is no month has no days. -/
def IsDate (year : Int) (month day : Nat) : Prop :=
  (minYear ≤ year ∧ year ≤ maxYear) ∧ 1 ≤ day ∧ day ≤ monthLength year month

instance (year : Int) (month day : Nat) : Decidable (IsDate year month day) :=
  inferInstanceAs (Decidable (_ ∧ _))

end Calendar

/-- A date of the Gregorian calendar, which goes on without a break before 1583 and below year 1. Its day is
    within its month and its year within the years of the calendar by construction. -/
structure Date where
  year : Int
  month : Nat
  day : Nat
  isDate : Calendar.IsDate year month day
  deriving DecidableEq

namespace Date

/-- The date with this year, month and day, if there is one. -/
def ofYmd? (year : Int) (month day : Nat) : Option Date :=
  if h : Calendar.IsDate year month day then some ⟨year, month, day, h⟩ else none

/-- The day of the year, 1 for January 1. -/
def ordinal (d : Date) : Nat :=
  Calendar.daysBeforeMonth d.year d.month + d.day

/-- The day after, which is the first of the next month at the end of a month and January 1 at the
    end of a year. The last day of the calendar has none. -/
def succ? (d : Date) : Option Date :=
  ofYmd? d.year d.month (d.day + 1) <|> ofYmd? d.year (d.month + 1) 1 <|> ofYmd? (d.year + 1) 1 1

/-- The day before. The first day of the calendar has none. -/
def pred? (d : Date) : Option Date :=
  if 1 < d.day then ofYmd? d.year d.month (d.day - 1)
  else if 1 < d.month then
    ofYmd? d.year (d.month - 1) (Calendar.monthLength d.year (d.month - 1))
  else ofYmd? (d.year - 1) 12 31

/-- Years compare first, days of the year within a year. -/
instance : LT Date where
  lt a b := a.year < b.year ∨ (a.year = b.year ∧ a.ordinal < b.ordinal)

instance : LE Date where
  le a b := a.year < b.year ∨ (a.year = b.year ∧ a.ordinal ≤ b.ordinal)

instance (a b : Date) : Decidable (a < b) :=
  inferInstanceAs (Decidable (_ ∨ _))

instance (a b : Date) : Decidable (a ≤ b) :=
  inferInstanceAs (Decidable (_ ∨ _))

def later (a b : Date) : Date :=
  if a ≤ b then b else a

/-- The run of at most `count` days that starts at a date. It ends before the last day of the
    calendar, because a day belongs to it only if it has a next day. -/
def run : Nat → Date → List Date
  | 0, _ => []
  | count + 1, d =>
    match d.succ? with
    | none => []
    | some next => d :: run count next

end Date

namespace Calendar

/-- The length of a month, found as the day before the first of the next month; December turns over
    into January of the next year. There is none for a number that is no month, or where one of
    these two days is outside the calendar. -/
def daysInMonth? (year : Int) (month : Nat) : Option Nat :=
  if 1 ≤ month ∧ month ≤ 12 then
    let next := if month = 12 then Date.ofYmd? (year + 1) 1 1 else Date.ofYmd? year (month + 1) 1
    (next.bind Date.pred?).map Date.day
  else none

end Calendar

end Daybook
