import Daybook.Config
import Daybook.Task.Basic

namespace Daybook

/-- New values for what a task says. What is not given stays. -/
structure Changes where
  title : Option String := none
  date : Option String := none
  comment : Option String := none
  repeatRule : Option String := none
  deriving DecidableEq

def Changes.apply (changes : Changes) (task : Task) : Task :=
  { task with
    title := changes.title.getD task.title
    date := changes.date.getD task.date
    comment := changes.comment.getD task.comment
    repeatRule := changes.repeatRule.getD task.repeatRule }

/-- What the planner is asked to do. Identifiers, dates and rules are the texts that were given. -/
inductive Command where
  | nextDate (now : Option String) (date repeatRule : String)
  | addTask (content : Content)
  | showTask (id : String)
  | updateTask (id : String) (changes : Changes)
  | deleteTask (id : String)
  | completeTask (id : String)
  | listTasks (search : String)
  | checkRule (rule : String)
  deriving DecidableEq

/-- The settings that may come with any command. -/
structure Options where
  format : Option Format := none
  verbose : Bool := false
  database : Option String := none
  config : Option String := none
  today : Option String := none
  deriving DecidableEq

/-- A command and the settings that it comes with. -/
structure Invocation where
  options : Options
  command : Command
  deriving DecidableEq

end Daybook
