import Daybook.Config

namespace Daybook.Arguments

/-- What an option sets. -/
inductive Setting where
  | format
  | verbose
  | database
  | config
  | today
  | now
  | date
  | comment
  | repeatRule
  | title
  | search
  | help
  | version
  deriving DecidableEq

namespace Setting

/-- The name of an option after two dashes. -/
def name : Setting → String
  | .format => "format"
  | .verbose => "verbose"
  | .database => "db"
  | .config => "config"
  | .today => "today"
  | .now => "now"
  | .date => "date"
  | .comment => "comment"
  | .repeatRule => "repeat"
  | .title => "title"
  | .search => "search"
  | .help => "help"
  | .version => "version"

/-- Whether an option stands without a value. -/
def isSwitch : Setting → Bool
  | .verbose => true
  | .help => true
  | .version => true
  | _ => false

/-- Whether an option takes a value. Formats are known by name, and paths are not empty. -/
def accepts (setting : Setting) (value : String) : Bool :=
  match setting with
  | .format => (Format.ofName? value).isSome
  | .database => !value.isEmpty
  | .config => !value.isEmpty
  | _ => true

end Setting

/-- The levels of the command line: the program, a command of the program, a command of a group. The words are
    read level by level, each with options of its own beside those that may stand at any level. -/
inductive Level where
  | top
  | nextDate
  | task
  | tasks
  | rule
  | taskAdd
  | taskShow
  | taskUpdate
  | taskDelete
  | taskDone
  | ruleCheck
  deriving DecidableEq

namespace Level

/-- The level that a name opens below another. -/
def child? : Level → String → Option Level
  | .top, "next-date" => some .nextDate
  | .top, "task" => some .task
  | .top, "tasks" => some .tasks
  | .top, "rule" => some .rule
  | .task, "add" => some .taskAdd
  | .task, "show" => some .taskShow
  | .task, "update" => some .taskUpdate
  | .task, "delete" => some .taskDelete
  | .task, "done" => some .taskDone
  | .rule, "check" => some .ruleCheck
  | _, _ => none

/-- Whether there are levels below. -/
def isGroup : Level → Bool
  | .top => true
  | .task => true
  | .rule => true
  | _ => false

/-- The name of a level with those of the levels above it. -/
def title : Level → String
  | .top => "sched"
  | .nextDate => "sched-next-date"
  | .task => "sched-task"
  | .tasks => "sched-tasks"
  | .rule => "sched-rule"
  | .taskAdd => "sched-task-add"
  | .taskShow => "sched-task-show"
  | .taskUpdate => "sched-task-update"
  | .taskDelete => "sched-task-delete"
  | .taskDone => "sched-task-done"
  | .ruleCheck => "sched-rule-check"

def hasOperand : Level → Bool
  | .taskAdd => true
  | .taskShow => true
  | .taskUpdate => true
  | .taskDelete => true
  | .taskDone => true
  | .ruleCheck => true
  | _ => false

/-- The options that may stand at any level, with the letters that they also go by. -/
def commonOptions : List (Setting × Option Char) :=
  [(.format, some 'f'), (.verbose, some 'v'), (.database, none), (.config, none), (.today, none),
    (.help, some 'h'), (.version, some 'V')]

/-- The options that stand at one level only. -/
def ownOptions : Level → List (Setting × Option Char)
  | .nextDate => [(.now, none), (.date, none), (.repeatRule, none)]
  | .tasks => [(.search, some 's')]
  | .taskAdd => [(.date, some 'd'), (.comment, some 'c'), (.repeatRule, some 'r')]
  | .taskUpdate =>
    [(.title, some 't'), (.date, some 'd'), (.comment, some 'c'), (.repeatRule, some 'r')]
  | _ => []

def options (level : Level) : List (Setting × Option Char) :=
  level.ownOptions ++ commonOptions

def named? (level : Level) (name : String) : Option Setting :=
  (level.options.find? fun option => option.1.name == name).map (·.1)

/-- The option of a level that goes by a letter. -/
def lettered? (level : Level) (letter : Char) : Option Setting :=
  (level.options.find? fun option => option.2 == some letter).map (·.1)

/-- Whether help can be asked for on what the names lead to. A group has a level for help itself,
    with nothing below it. -/
def describes : Level → List String → Bool
  | _, [] => true
  | level, name :: names =>
    match level.child? name with
    | some child => child.describes names
    | none => level.isGroup && name == "help" && names.isEmpty

end Level

end Daybook.Arguments
