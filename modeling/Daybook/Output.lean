import Daybook.Config
import Daybook.Task.Written
import Daybook.Text.Line

namespace Daybook

/-- What a run leaves: the exit code and the texts of the two outputs. -/
structure Report where
  exitCode : Nat := 0
  stdout : String := ""
  stderr : String := ""
  deriving DecidableEq

/-- How a run prints. -/
structure Style where
  format : Format
  verbose : Bool
  deriving DecidableEq

/-- A note on the progress of a run, under the name of the part that makes it. -/
structure Note where
  context : Option String := none
  message : String
  deriving DecidableEq

def Note.line (note : Note) : String :=
  match note.context with
  | none => Text.line ("[verbose] " ++ note.message)
  | some context => Text.line ("[verbose:" ++ context ++ "] " ++ note.message)

/-- The lines of notes, if they are wanted. -/
def Style.noteLines (style : Style) (notes : List Note) : String :=
  if style.verbose then String.join (notes.map Note.line) else ""

/-- The line that reports what went wrong, the outermost message first. -/
def failureLine (messages : List String) : String :=
  Text.line ("Error: " ++ String.intercalate ": " messages)

/-- Structured data. A map may have any values as keys, but only one whose keys are all strings can
    be written. -/
inductive Output.Data where
  | value (json : Json)
  | map (entries : List (Json × Json))

inductive Output where
  /-- A line that is the same in both formats. -/
  | line (text : String)
  | success (message : String)
  | date (date : String)
  /-- Data, indented in text format. -/
  | data (data : Output.Data)
  /-- The head of a table of tasks, in text format only. -/
  | header
  /-- A row of such a table, in text format only. -/
  | row (task : Task)
  | note (note : Note)

namespace Output

inductive Error where
  | keyNotString
  deriving DecidableEq

/-- The messages of an error, outermost first. -/
def Error.messages : Error → List String
  | .keyNotString => ["Failed to serialize output", "key must be a string"]

/-- The entries of a map as members of an object, if all keys are strings. -/
def members? : List (Json × Json) → Option (List (String × Json))
  | [] => some []
  | (.str key, value) :: entries => (members? entries).map ((key, value) :: ·)
  | _ :: _ => none

def Data.toJson : Data → Except Error Json
  | .value json => .ok json
  | .map entries =>
    match members? entries with
    | some members => .ok (.obj members)
    | none => .error .keyNotString

/-- A text with spaces after it up to the width, which is counted in characters. -/
def padRight (width : Nat) (s : String) : String :=
  s ++ String.ofList (List.replicate (width - s.length) ' ')

/-- The columns of a table of tasks: identifier, date, rule and title. -/
def columns (id date rule title : String) : String :=
  Text.line (padRight 8 id ++ " " ++ padRight 10 date ++ " " ++ padRight 14 rule ++ " " ++ title)

/-- The head of a table of tasks, with a line of dashes below it. -/
def tableHead : String :=
  columns "ID" "DATE" "REPEAT" "TITLE" ++ Text.line (String.ofList (List.replicate 60 '-'))

/-- The row of a task. The column of a missing rule has a dash. -/
def tableRow (task : Task) : String :=
  columns ((task.id.map TaskId.text).getD "") task.date
    (if task.repeatRule.isEmpty then "-" else task.repeatRule) task.title

def jsonLine (format : Format) (json : Json) : String :=
  match format with
  | .text => Text.line json.pretty
  | .json => Text.line json.compact

def successJson (message : String) : Json :=
  .obj [("message", .str message), ("success", .bool true)]

def dateJson (date : String) : Json :=
  .obj [("date", .str date)]

/-- One line that is a text or else a JSON value. -/
def eitherLine (format : Format) (text : String) (json : Json) : String :=
  match format with
  | .text => Text.line text
  | .json => jsonLine .json json

/-- Adds one thing to what has been printed. -/
def print (style : Style) (report : Report) : Output → Except Error Report
  | .line text => .ok { report with stdout := report.stdout ++ Text.line text }
  | .success message =>
    let written := eitherLine style.format message (successJson message)
    .ok { report with stdout := report.stdout ++ written }
  | .date day =>
    let written := eitherLine style.format day (dateJson day)
    .ok { report with stdout := report.stdout ++ written }
  | .data d => do
    let json ← d.toJson
    return { report with stdout := report.stdout ++ jsonLine style.format json }
  | .header =>
    .ok (if style.format = .text then { report with stdout := report.stdout ++ tableHead }
      else report)
  | .row task =>
    .ok (if style.format = .text then { report with stdout := report.stdout ++ tableRow task }
      else report)
  | .note n => .ok { report with stderr := report.stderr ++ style.noteLines [n] }

/-- Prints things in order. The first that cannot be written ends the run with a failure. -/
def printAll (style : Style) : Report → List Output → Report
  | report, [] => report
  | report, output :: outputs =>
    match print style report output with
    | .ok report => printAll style report outputs
    | .error error =>
      { report with exitCode := 1, stderr := report.stderr ++ failureLine error.messages }

end Output

end Daybook
