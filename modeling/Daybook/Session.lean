import Daybook.Calendar.Written
import Daybook.Config
import Daybook.Text.Blank

namespace Daybook

/-- What the commands of a run have in common. -/
structure Session where
  config : Config
  database : String
  /-- The day that the run is told to take as today, if it is told one. -/
  givenDay : Option Date
  clock : Date

namespace Session

inductive Error where
  | invalidToday (text : String) (cause : DateError)
  deriving DecidableEq

def Error.message : Error → String
  | .invalidToday text _ => "Invalid --today value '" ++ text ++ "'"

def Error.causes : Error → List String
  | .invalidToday _ cause => [cause.message]

/-- A text without blanks at its ends, if anything is left of it. -/
def trimmed? (text : Option String) : Option String :=
  (text.map Text.trim).filter fun t => !t.isEmpty

/-- The day that a text gives. A blank text gives none. -/
def readDay (text : Option String) : Except Error (Option Date) :=
  match trimmed? text with
  | none => .ok none
  | some t =>
    match Date.read t with
    | .ok day => .ok (some day)
    | .error cause => .error (.invalidToday t cause)

/-- Opens a session. The file given for the run is taken before that of the configuration, unless it
    is empty. -/
def start (config : Config) (database today : Option String) (clock : Date) :
    Except Error Session := do
  let database := (database.filter fun path => !path.isEmpty).getD config.database
  let givenDay ← readDay today
  return { config, database, givenDay, clock }

/-- The day that counts as today: the given one, or else that of the clock. -/
def today (session : Session) : Date :=
  session.givenDay.getD session.clock

end Session

end Daybook
