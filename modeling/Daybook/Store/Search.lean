import Daybook.Calendar.Written
import Daybook.Store.Pattern
import Daybook.Text.Blank

namespace Daybook

/-- What a search selects. -/
inductive Search where
  | all
  | dated (date : Date)
  /-- The tasks whose title or comment contains the text. -/
  | containing (text : List Char)
  deriving DecidableEq

namespace Search

/-- Takes one digit or more off a text, at most so many, and reads their number. -/
def takeNumber? (most : Nat) (cs : List Char) : Option (Nat × List Char) :=
  let digits := (cs.take most).takeWhile Char.isDigit
  if digits.isEmpty then none else some (Nat.ofDigitChars 10 digits 0, cs.drop digits.length)

/-- Takes a day or month of one or two digits off a text, with blanks before it or not. -/
def takePart? (cs : List Char) : Option (Nat × List Char) :=
  takeNumber? 2 (cs.dropWhile Text.isBlank)

/-- Takes a year off a text, with blanks before it or not: up to four digits, or any number of them
    after a sign. -/
def takeYear? (cs : List Char) : Option (Int × List Char) :=
  match cs.dropWhile Text.isBlank with
  | '-' :: rest => (takeNumber? rest.length rest).map fun (n, rest) => (-Int.ofNat n, rest)
  | '+' :: rest => (takeNumber? rest.length rest).map fun (n, rest) => (Int.ofNat n, rest)
  | rest => (takeNumber? 4 rest).map fun (n, rest) => (Int.ofNat n, rest)

/-- Takes the dot off a text that starts with it. -/
def takeDot? : List Char → Option (List Char)
  | '.' :: rest => some rest
  | _ => none

/-- Reads a date written as day, month and year with dots between them. -/
def readDate? (cs : List Char) : Option Date := do
  let (day, cs) ← takePart? cs
  let (month, cs) ← takePart? (← takeDot? cs)
  let (year, cs) ← takeYear? (← takeDot? cs)
  if cs.isEmpty then Date.ofYmd? year month day else none

/-- The search that a text asks for, blanks at its ends aside. One that reads as `DD.MM.YYYY` asks for the
    tasks of that date. -/
def ofText (text : String) : Search :=
  let trimmed := Text.trimChars text.toList
  if trimmed.isEmpty then .all
  else
    match readDate? trimmed with
    | some date => .dated date
    | none => .containing trimmed

end Search

end Daybook
