import Daybook.Output

namespace Daybook

/-- What a command answers when it succeeds. -/
inductive Answer where
  | nextDate (date : String)
  | checked (rule : Rule)
  | added (id : TaskId) (title date : String)
  | shown (id : TaskId) (task : Task)
  | updated (id : TaskId) (task : Task)
  | deleted (id : TaskId)
  | completed (id : TaskId) (completion : Task.Completion)
  /-- The tasks of a listing and the search text that selects them. -/
  | listed (search : String) (tasks : List Task)
  deriving DecidableEq

/-- The date on which a completed task is due again. -/
def Task.Completion.next? : Task.Completion → Option String
  | .remove => none
  | .reschedule date => some date

open Text (line)

namespace Answer

def deletedMessage (id : TaskId) : String :=
  "Deleted task: " ++ id.text

/-- The lines that show a task. A task that does not repeat says so, and an empty comment is left
    out. -/
def taskLines (id : TaskId) (task : Task) : String :=
  line ("Task: " ++ id.text) ++ line ("Title: " ++ task.title) ++ line ("Date: " ++ task.date) ++
    line ("Repeat: " ++ if task.isRecurring then task.repeatRule else "none") ++
    if task.comment.isEmpty then "" else line "\nComment:" ++ line task.comment

/-- The line that says what became of a completed task. -/
def completedLine (id : TaskId) (completion : Task.Completion) : String :=
  match completion with
  | .remove => line ("Completed task: " ++ id.text ++ " (removed)")
  | .reschedule date => line ("Completed task: " ++ id.text ++ ", next on " ++ date)

def listingLines (search : String) (tasks : List Task) : String :=
  if tasks.isEmpty then
    if Text.allBlank search then line "No tasks"
    else line ("No tasks matching '" ++ search ++ "'")
  else Output.tableHead ++ String.join (tasks.map Output.tableRow)

/-- An answer as lines of text. -/
def text : Answer → String
  | .nextDate date => line date
  | .checked rule => line (rule.text ++ " (" ++ rule.kind.name ++ ")")
  | .added id title date =>
    line ("Created task: " ++ id.text ++ " - " ++ title ++ " (" ++ date ++ ")")
  | .shown id task => taskLines id task
  | .updated id task => line ("Updated task: " ++ id.text ++ " (" ++ task.date ++ ")")
  | .deleted id => line (deletedMessage id)
  | .completed id completion => completedLine id completion
  | .listed search tasks => listingLines search tasks

/-- An answer as a JSON value. A single task has its members in their own order; all else has them
    in the order of their keys. -/
def toJson : Answer → Json
  | .nextDate date => Output.dateJson date
  | .checked rule => .obj [("kind", .str rule.kind.name), ("rule", rule.toJson)]
  | .added id _ date => .obj [("date", .str date), ("id", id.toJson)]
  | .shown _ task => task.toJson
  | .updated _ task => task.toJson
  | .deleted id => Output.successJson (deletedMessage id)
  | .completed id completion =>
    .obj [("id", id.toJson), ("next_date", (completion.next?.map Json.str).getD .null),
      ("removed", .bool completion.next?.isNone)]
  | .listed _ tasks => .obj [("tasks", .arr (tasks.map fun task => task.toJson.sortKeys))]

def render (answer : Answer) : Format → String
  | .text => answer.text
  | .json => Output.jsonLine .json answer.toJson

end Answer

end Daybook
