import Daybook.Text.Blank
import Daybook.Text.Numeral

namespace Daybook

structure TaskId where
  value : Int
  deriving DecidableEq

namespace TaskId

/-- Why a text is not an identifier; the text is kept without blanks at its ends. -/
inductive Error where
  | notPositive (text : String)
  deriving DecidableEq

def Error.message : Error → String
  | .notPositive text => "Invalid task ID: expected a positive integer, got '" ++ text ++ "'"

def text (id : TaskId) : String :=
  Text.ofInt id.value

/-- Reads a positive number of 64 bits, with blanks around it or not. -/
def read (text : String) : Except Error TaskId :=
  let trimmed := Text.trimChars text.toList
  match Text.readInt64? trimmed with
  | some n => if 0 < n then .ok ⟨n⟩ else .error (.notPositive (String.ofList trimmed))
  | none => .error (.notPositive (String.ofList trimmed))

end TaskId

end Daybook
