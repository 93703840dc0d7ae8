import Daybook.Planner.Run
import Daybook.Store.Written
import Std.Time.Zoned

namespace Daybook.Program

def clock : IO Date := do
  let day ← Std.Time.PlainDate.now
  match Date.ofYmd? day.year.toInt day.month.val.toNat day.day.val.toNat with
  | some date => return date
  | none => throw (IO.userError "the clock shows no date")

def environment : IO Environment := do
  return {
    database := ← IO.getEnv "TODO_DBFILE"
    config := ← IO.getEnv "SCHED_CONFIG"
    today := ← IO.getEnv "SCHED_TODAY"
    home := ← IO.getEnv "HOME"
    configHome := ← IO.getEnv "XDG_CONFIG_HOME"
    clock := ← clock }

def entryOf (bytes : ByteArray) : Entry :=
  match String.fromUTF8? bytes with
  | none => .binary
  | some text =>
    match Store.ofText? text with
    | some store => .tasks store
    | none => .text text

def look (location : Location) : IO (Option Entry) := do
  try
    return some (entryOf (← IO.FS.readBinFile location.path.text))
  catch
    | .noFileOrDirectory _ _ _ => return none
    | .inappropriateType _ _ _ => return some .folder
    | e => throw e

/-- Adds what there is at locations to a workspace. -/
def lookAtAll (w : Workspace) (locations : List Location) : IO Workspace := do
  let mut w := w
  for location in locations do
    if (w.entry? location).isNone then
      if let some entry ← look location then
        w := w.put location entry
  return w

/-- Adds what there is along a path to a workspace. -/
def lookAlong (w : Workspace) (path : Path) : IO Workspace :=
  lookAtAll w path.trail

/-- Adds what there is along the path of a database, and the files beside it, to a workspace. -/
def lookAtDatabase (w : Workspace) (path : String) : IO Workspace := do
  let mut w ← lookAlong w (Path.ofText path)
  if let .ok address := Address.read path then
    w ← lookAlong w address.path
    if let some file := address.permissionsOf? then
      w ← lookAlong w file
    if let some location := w.locateDatabase address.path then
      w ← lookAtAll w [Database.lock location, Database.journal location, Database.log location,
        Database.logIndex location]
  return w

/-- The workspace that a run concerns: what there is along the paths of its configuration and its
    database. -/
def lookAround (environment : Environment) (options : Options) : IO Workspace := do
  let mut w : Workspace := {}
  if let some path := options.config.map Path.ofText <|> Planner.userConfig environment then
    w ← lookAlong w path
  if let .ok config := Planner.config environment w options.config then
    w ← lookAtDatabase w (options.database.getD config.database)
  return w

/-- What is written for bytes that are no text. -/
def binary : ByteArray :=
  ⟨#[0xFF]⟩

/-- Writes down what is gone, new or different in a workspace. Folders come before what they hold. -/
def writeDown (old new : Workspace) : IO Unit := do
  for (location, _) in old.entries do
    if (new.entry? location).isNone then IO.FS.removeFile location.path.text
  for (location, entry) in new.entries.mergeSort fun a b => a.1.length ≤ b.1.length do
    if old.entry? location != some entry then
      match entry with
      | .folder => IO.FS.createDirAll location.path.text
      | .tasks store => IO.FS.writeFile location.path.text store.toText
      | .text content => IO.FS.writeFile location.path.text content
      | .binary => IO.FS.writeBinFile location.path.text binary
      | .void => pure ()

/-- Runs the planner once and gives the exit code. -/
def run (texts : List String) : IO UInt32 := do
  let environment ← environment
  let old ← match Arguments.read environment.toVariables texts with
    | .ok invocation => lookAround environment invocation.options
    | .error _ => pure {}
  let (new, outcome) := Planner.run environment old texts
  writeDown old new
  let report := outcome.report
  IO.print report.stdout
  IO.eprint report.stderr
  return report.exitCode.toUInt32

end Daybook.Program

def main (texts : List String) : IO UInt32 :=
  Daybook.Program.run texts
