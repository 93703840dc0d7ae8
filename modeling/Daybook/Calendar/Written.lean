import Daybook.Calendar.Date
import Daybook.Text.Numeral

namespace Daybook

/-- Why a text is not a date in compact form. -/
inductive DateError where
  /-- The text is not eight digits. -/
  | malformed (text : String)
  /-- The eight digits name no day of the calendar. -/
  | invalid (text : String)
  deriving DecidableEq

def DateError.message : DateError → String
  | .malformed text => "expected 8 digits in YYYYMMDD form, got '" ++ text ++ "'"
  | .invalid text => "'" ++ text ++ "' is not a valid calendar date"

namespace Date

/-- A year as four digits or more. Outside 0 to 9999 it has a sign. -/
def yearChars (year : Int) : List Char :=
  if 0 ≤ year ∧ year ≤ 9999 then Text.paddedChars 4 year.natAbs
  else (if year < 0 then '-' else '+') :: Text.paddedChars 4 year.natAbs

/-- The compact form `YYYYMMDD`, in which dates are stored and exchanged. -/
def compact (d : Date) : String :=
  String.ofList (yearChars d.year ++ Text.paddedChars 2 d.month ++ Text.paddedChars 2 d.day)

/-- The dashed form `YYYY-MM-DD`, for messages. -/
def dashed (d : Date) : String :=
  String.ofList
    (yearChars d.year ++ '-' :: Text.paddedChars 2 d.month ++ '-' :: Text.paddedChars 2 d.day)

/-- Whether the compact form of a date has eight digits. -/
def isRepresentable (d : Date) : Bool :=
  0 ≤ d.year && d.year ≤ 9999

/-- Reads the compact form: four digits of the year, two of the month and two of the day. -/
def read (text : String) : Except DateError Date :=
  let cs := text.toList
  if cs.length = 8 && cs.all Char.isDigit then
    let number := fun digits => Nat.ofDigitChars 10 digits 0
    match ofYmd? (number (cs.take 4)) (number ((cs.drop 4).take 2)) (number (cs.drop 6)) with
    | some d => .ok d
    | none => .error (.invalid text)
  else .error (.malformed text)

end Date

end Daybook
