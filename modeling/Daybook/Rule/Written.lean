import Daybook.Rule.Basic
import Daybook.Text.Blank

namespace Daybook.Rule

def readItem (field : Field) (item : List Char) : Except Error Int :=
  match Text.readInt64? (Text.trimChars item) with
  | none => .error (.invalidNumber field (String.ofList item))
  | some n => if field.accepts n then .ok n else .error (.outOfRange field n)

/-- Reads the items of a field from left to right, up to the first that is wrong. -/
def readList (field : Field) (items : List Char) : Except Error (List Int) :=
  (items.splitOn ',').mapM (readItem field)

/-- The number that 32 bits keep of an integer. -/
def word (n : Int) : Nat :=
  (BitVec.ofInt 32 n).toNat

def numbers (values : List Int) : NumberSet :=
  .ofList (values.map word)

/-- Sorts the entries of a monthly rule into days from the start and days from the end. -/
def monthDays (values : List Int) : MonthDays where
  days := numbers (values.filter (0 ≤ ·))
  fromEnd := numbers ((values.filter (· < 0)).map fun n => Int.ofNat n.natAbs)

/-- Reads a rule, which is one of `y`, `d N`, `w LIST`, `m LIST` and `m LIST LIST`, where a list has items
    separated by commas. What is wrong is found in the order of the text, once its shape is known. -/
def read (text : String) : Except Error Rule :=
  let trimmed := Text.trimChars text.toList
  if trimmed.isEmpty then .error .empty
  else
    match trimmed.splitOn ' ' with
    | [['y']] => .ok .annual
    | [['d'], item] => do
      let days ← readItem .interval item
      return .interval (word days)
    | [['w'], items] => do
      let weekdays ← readList .weekday items
      return .weekly (numbers weekdays)
    | [['m'], items] => do
      let days ← readList .monthDay items
      return .monthly (monthDays days) ∅
    | [['m'], items, monthItems] => do
      let days ← readList .monthDay items
      let months ← readList .month monthItems
      return .monthly (monthDays days) (numbers months)
    | _ => .error (.unsupported (String.ofList trimmed))

def listChars (values : List Int) : List Char :=
  [','].intercalate (values.map Text.intChars)

/-- The characters of the canonical text of a rule. -/
def chars : Rule → List Char
  | .annual => ['y']
  | .interval days => 'd' :: ' ' :: Text.natChars days
  | .weekly weekdays => 'w' :: ' ' :: listChars (weekdays.toList.map Int.ofNat)
  | .monthly days months =>
    'm' :: ' ' :: listChars days.entries ++
      if months.isEmpty then [] else ' ' :: listChars (months.toList.map Int.ofNat)

/-- The canonical text of a rule, with every list ascending and no blanks but the separating ones. -/
def text (rule : Rule) : String :=
  String.ofList rule.chars

end Daybook.Rule
