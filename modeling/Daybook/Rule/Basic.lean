import Daybook.Calendar.Date
import Daybook.Rule.NumberSet
import Daybook.Text.Numeral

namespace Daybook

/-- The days of the month on which a monthly rule fires. -/
structure MonthDays where
  /-- Days counted from the start of the month. -/
  days : NumberSet
  /-- Days counted from its end, 1 for the last day. -/
  fromEnd : NumberSet
  deriving DecidableEq

/-- The days as signed numbers in ascending order: those from the end of the month are negative, -1
    for the last day, and come first. -/
def MonthDays.entries (days : MonthDays) : List Int :=
  days.fromEnd.toList.reverse.map (fun n => -Int.ofNat n) ++ days.days.toList.map Int.ofNat

/-- Whether a date is one of these days of its month. -/
def MonthDays.matches (days : MonthDays) (date : Date) : Bool :=
  days.days.contains date.day ||
    match Calendar.daysInMonth? date.year date.month with
    | some last => date.day ≤ last && days.fromEnd.contains (last - date.day + 1)
    | none => false

/-- When a task repeats. -/
inductive Rule where
  /-- Every year on the same month and day. -/
  | annual
  /-- Every so many days. -/
  | interval (days : Nat)
  /-- On the named days of the week, 1 for Monday. -/
  | weekly (weekdays : NumberSet)
  /-- On the named days of the named months; no month named means all of them. -/
  | monthly (days : MonthDays) (months : NumberSet)
  deriving DecidableEq

inductive Rule.Kind where
  | annual
  | intervalDays
  | weeklySet
  | monthlySet
  deriving DecidableEq

def Rule.kind : Rule → Rule.Kind
  | .annual => .annual
  | .interval _ => .intervalDays
  | .weekly _ => .weeklySet
  | .monthly _ _ => .monthlySet

/-- The name under which reports give the kind of a rule. -/
def Rule.Kind.name : Rule.Kind → String
  | .annual => "annual"
  | .intervalDays => "interval_days"
  | .weeklySet => "weekly_set"
  | .monthlySet => "monthly_set"

namespace Rule

/-- The longest interval that the text of a rule can name. -/
def maxInterval : Nat := 400

/-- The places of a rule where a number stands. -/
inductive Field where
  | interval
  | weekday
  | monthDay
  | month
  deriving DecidableEq

namespace Field

def name : Field → String
  | .interval => "day interval"
  | .weekday => "weekday"
  | .monthDay => "day of month"
  | .month => "month"

/-- The numbers that may stand in a field, in words. -/
def allowed : Field → String
  | .interval => "1..=400"
  | .weekday => "1..=7"
  | .monthDay => "-2, -1 or 1..=31"
  | .month => "1..=12"

/-- Whether a number may stand in a field. A day of the month may count from the end, as -1 for the
    last day or -2 for the day before it. -/
def accepts (field : Field) (n : Int) : Bool :=
  match field with
  | .interval => 1 ≤ n && n ≤ maxInterval
  | .weekday => 1 ≤ n && n ≤ 7
  | .monthDay => (-2 ≤ n && n ≤ -1) || (1 ≤ n && n ≤ 31)
  | .month => 1 ≤ n && n ≤ 12

end Field

inductive Error where
  /-- The text is blank. -/
  | empty
  /-- The text has the shape of no rule. -/
  | unsupported (text : String)
  /-- An item is not an integer of 64 bits; it is kept as it stands in the text. -/
  | invalidNumber (field : Field) (item : String)
  /-- An item is an integer that may not stand in its field. -/
  | outOfRange (field : Field) (value : Int)
  deriving DecidableEq

def Error.message : Error → String
  | .empty => "repeat rule must not be empty"
  | .unsupported text => "unsupported repeat rule: '" ++ text ++ "'"
  | .invalidNumber field item => "invalid " ++ field.name ++ ": '" ++ item ++ "' is not an integer"
  | .outOfRange field value =>
    field.name ++ " must be " ++ field.allowed ++ ", got " ++ Text.ofInt value

end Rule

end Daybook
