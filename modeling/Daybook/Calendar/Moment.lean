import Daybook.Calendar.Date

namespace Daybook

/-- What a clock shows: year, month and day, which need not be a date of the calendar, and the second of the
    day. -/
structure Moment where
  year : Int
  month : Nat
  day : Nat
  second : Nat := 0
  deriving DecidableEq

namespace Moment

/-- The calendar day of a moment, if it shows one. -/
def date? (m : Moment) : Option Date :=
  Date.ofYmd? m.year m.month m.day

/-- Whether `a` falls on a later day than `b`, comparing year, month and day in this order. A later
    second of the same day is not after. -/
def strictlyAfter (a b : Moment) : Bool :=
  b.year < a.year || (b.year == a.year &&
    (b.month < a.month || (b.month == a.month && b.day < a.day)))

end Moment

/-- The moment at which a date begins. -/
def Date.start (d : Date) : Moment where
  year := d.year
  month := d.month
  day := d.day

/-- Whether a date falls on a later day than another. -/
def Date.strictlyAfter (a b : Date) : Bool :=
  a.start.strictlyAfter b.start

end Daybook
