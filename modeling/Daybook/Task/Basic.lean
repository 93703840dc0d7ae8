import Daybook.Occurrence.Next
import Daybook.Task.Id

namespace Daybook

/-- What a task says. Dates and rules are kept as the texts that were given. -/
structure Content where
  /-- The due date in compact form, once it is settled. -/
  date : String := ""
  title : String := ""
  comment : String := ""
  /-- The repeat rule. A task whose rule is blank does not repeat. -/
  repeatRule : String := ""
  deriving DecidableEq

/-- A task, which has an identifier once a store has taken it in. -/
structure Task extends Content where
  id : Option TaskId := none
  deriving DecidableEq

namespace Task

inductive Error where
  | missingTitle
  | invalidDate (date : String) (cause : DateError)
  | invalidRule (cause : Occurrence.Error)
  deriving DecidableEq

namespace Error

def message : Error → String
  | .missingTitle => "Task title is required"
  | .invalidDate date _ => "Date '" ++ date ++ "' is not in YYYYMMDD format"
  | .invalidRule cause => "Invalid repeat rule: " ++ cause.message

/-- The messages of the causes below an error, outermost first. -/
def causes : Error → List String
  | .missingTitle => []
  | .invalidDate _ cause => [cause.message]
  | .invalidRule cause => cause.message :: cause.causes

end Error

/-- What becomes of a task that is done. -/
inductive Completion where
  /-- It is over. -/
  | remove
  /-- It is due again on this date. -/
  | reschedule (date : String)
  deriving DecidableEq

def isRecurring (task : Task) : Bool :=
  !Text.allBlank task.repeatRule

/-- Checks what does not hang on the current day: a task has a title. -/
def validate (task : Task) : Except Error Unit :=
  if Text.allBlank task.title then .error .missingTitle else .ok ()

/-- The task with today's date in place of a blank one. -/
def withDate (task : Task) (today : Date) : Task :=
  if Text.allBlank task.date then { task with date := today.compact } else task

/-- The next occurrence of the task's rule after today. -/
def nextDate (task : Task) (today : Date) : Except Error String :=
  (Occurrence.nextText today.start task.date task.repeatRule).mapError .invalidRule

/-- The date on which the task is due. Dates from today on stand. A date in the past becomes today,
    or the next occurrence of a task that repeats. The rule of a date in the future is read but not
    evaluated; that of any other date is evaluated even where the date stands. -/
def dueDate (task : Task) (today : Date) : Except Error String := do
  let date ← (Date.read task.date).mapError (.invalidDate task.date)
  if !task.isRecurring then
    return if date < today then today.compact else task.date
  else if today < date then
    let _ ← (Rule.read task.repeatRule).mapError fun cause => .invalidRule (.invalidRule cause)
    return task.date
  else
    let next ← task.nextDate today
    return if date < today then next else task.date

/-- Settles the date of a task. The task is given back in either case, because today's date has
    taken the place of a blank one even where the settling fails. -/
def schedule (task : Task) (today : Date) : Task × Except Error Unit :=
  let dated := task.withDate today
  match dated.dueDate today with
  | .ok date => ({ dated with date := date }, .ok ())
  | .error error => (dated, .error error)

/-- Decides what becomes of a task that is done today. -/
def complete (task : Task) (today : Date) : Except Error Completion :=
  if task.isRecurring then (task.nextDate today).map .reschedule else .ok .remove

end Task

end Daybook
