import Daybook.Calendar.DayNumber
import Daybook.Calendar.Moment
import Daybook.Calendar.Written
import Daybook.Rule.Written

namespace Daybook.Occurrence

/-- A weekly rule is searched for this many days. -/
def weeklySearchDays : Nat := 14

/-- A monthly rule is searched for this many days. -/
def monthlySearchDays : Nat := 730

/-- An annual rule is moved on by single years at most this often. -/
def maxAnnualAdvances : Nat := 400

/-- The bounds that a computation can pass. -/
inductive Fault where
  | invalidReference
  /-- The next date does not fit eight digits. -/
  | unrepresentable (next : Date)
  /-- The year after this date is outside the calendar. -/
  | yearOutside (date : Date)
  /-- The date so many days after the anchor is outside the calendar. -/
  | stepOutside (days : Int) (anchor : Date)
  /-- An annual rule has not passed the reference in as many years as are tried. -/
  | annualBehind (reference anchor : Date)
  /-- Repeating every 0 days never passes the reference. -/
  | zeroInterval
  deriving DecidableEq

def Fault.message : Fault → String
  | .invalidReference => "reference day is not a valid date"
  | .unrepresentable next => "next date " ++ next.dashed ++ " does not fit the YYYYMMDD format"
  | .yearOutside date => "advancing " ++ date.dashed ++ " by a year leaves the calendar"
  | .stepOutside days anchor =>
    "adding " ++ Text.ofInt days ++ " days to " ++ anchor.dashed ++ " overflows the calendar"
  | .annualBehind reference anchor =>
    "annual rule did not pass " ++ reference.dashed ++ " within " ++ Text.ofNat maxAnnualAdvances ++
      " years of " ++ anchor.dashed
  | .zeroInterval => "an interval of 0 days never passes the reference"

/-- Why there is no next occurrence. -/
inductive Error where
  | invalidAnchor (cause : DateError)
  | invalidRule (cause : Rule.Error)
  /-- The search for a date of the rule ended without one. -/
  | searchExhausted (rule : Rule) (days : Nat)
  | internal (cause : Fault)
  deriving DecidableEq

/-- What an error comes down to. -/
inductive Error.Kind where
  /-- A date or a number could not be read. -/
  | format
  | range
  /-- The rule is blank or of no known shape. -/
  | unsupportedRule
  | searchExhausted
  | internal
  deriving DecidableEq

namespace Error

def kind : Error → Kind
  | .invalidAnchor _ => .format
  | .invalidRule (.invalidNumber _ _) => .format
  | .invalidRule (.outOfRange _ _) => .range
  | .invalidRule .empty => .unsupportedRule
  | .invalidRule (.unsupported _) => .unsupportedRule
  | .searchExhausted _ _ => .searchExhausted
  | .internal _ => .internal

def message : Error → String
  | .invalidAnchor cause => "invalid start date: " ++ cause.message
  | .invalidRule cause => cause.message
  | .searchExhausted rule days =>
    "no date matching '" ++ rule.text ++ "' within " ++ Text.ofNat days ++ " days"
  | .internal cause => "internal error: " ++ cause.message

/-- The messages of the causes below an error, outermost first. The message of a rule's error is
    the error's own, so it is not repeated. -/
def causes : Error → List String
  | .invalidAnchor cause => [cause.message]
  | _ => []

end Error

end Daybook.Occurrence
