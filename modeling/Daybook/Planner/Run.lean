import Daybook.Arguments.Read
import Daybook.Planner.Perform

namespace Daybook

/-- What a run finds outside its words and its workspace. -/
structure Environment extends Arguments.Variables where
  home : Option String := none
  /-- The path of the folder of the user's configurations, if it is not the usual one in the home. -/
  configHome : Option String := none
  clock : Date

/-- What a run comes to. -/
inductive Outcome where
  | refused
  | help
  /-- The version, asked for at a level of the command line. -/
  | version (level : Arguments.Level)
  | ended (style : Style) (attempt : Attempt Answer)

namespace Planner

def version : String := "0.1.0"

/-- Where the configuration lies in the folder of the user's configurations. -/
def configFile : Path := Path.ofText "scheduler/config.toml"

def readConfig (w : Workspace) (path : Path) : Except Failure Config := do
  let text ← (w.readText path).mapError (.configUnread path.text)
  (Config.read text).mapError (.configRefused path.text)

/-- The folder of the user's configurations. Only a path from the root moves it out of the home. -/
def configFolder (environment : Environment) : Option Path :=
  let home := environment.home.filter (· != "")
  (environment.configHome.map Path.ofText).filter Path.isAbsolute <|>
    home.map fun home => (Path.ofText home).join (Path.ofText ".config")

def userConfig (environment : Environment) : Option Path :=
  (configFolder environment).map fun path => path.join configFile

/-- The configuration of a run: the one that is asked for, or else that of the user, if there is
    one. -/
def config (environment : Environment) (w : Workspace) (path : Option String) :
    Except Failure Config :=
  match path, userConfig environment with
  | some path, _ => readConfig w (Path.ofText path)
  | none, some path => if w.isThere path then readConfig w path else .ok {}
  | none, none => .ok {}

def openSession (environment : Environment) (options : Options) (config : Config) :
    Attempt Session := do
  Attempt.note none "Scheduler starting"
  let session ←
    Attempt.of .session (Session.start config options.database options.today environment.clock)
  Attempt.note "session"
    ("today=" ++ session.today.compact ++ ", database=" ++ session.database)
  return session

/-- Performs the command of a run with a configuration. -/
def performWith (environment : Environment) (w : Workspace) (invocation : Invocation)
    (config : Config) : Workspace × Attempt Answer :=
  let opened := openSession environment invocation.options config
  match opened.result with
  | .error failure => (w, (Attempt.fail failure).after opened.notes)
  | .ok session =>
    let (w, performed) := session.perform w invocation.command
    let attempt := do
      let answer ← performed
      Attempt.note none "Command completed successfully"
      return answer
    (w, attempt.after opened.notes)

def invoke (environment : Environment) (w : Workspace) (invocation : Invocation) :
    Workspace × Outcome :=
  let options := invocation.options
  match config environment w options.config with
  | .error failure =>
    let style := { format := options.format.getD .text, verbose := options.verbose }
    (w, .ended style (.fail failure))
  | .ok config =>
    let style :=
      { format := options.format.getD config.defaultFormat, verbose := options.verbose }
    let (w, attempt) := performWith environment w invocation config
    (w, .ended style attempt)

/-- Runs the planner on the words of a command line. What that does to the workspace is settled apart from how
    its outcome is written. -/
def run (environment : Environment) (w : Workspace) (texts : List String) : Workspace × Outcome :=
  match Arguments.read environment.toVariables texts with
  | .error .refused => (w, .refused)
  | .error .help => (w, .help)
  | .error (.version level) => (w, .version level)
  | .ok invocation => invoke environment w invocation

end Planner

namespace Outcome

def usage : String :=
  Text.lines ["Usage: sched [OPTIONS] <COMMAND>", "", "Commands: next-date, task, tasks, rule"]

/-- What a run prints. The wording about the use of the command line is free. -/
def report : Outcome → Report
  | .refused => { exitCode := 2, stderr := usage }
  | .help => { stdout := usage }
  | .version level => { stdout := Text.line (level.title ++ " " ++ Planner.version) }
  | .ended style attempt =>
    match attempt.result with
    | .ok answer =>
      { stdout := answer.render style.format, stderr := style.noteLines attempt.notes }
    | .error failure =>
      { exitCode := 1
        stderr := style.noteLines attempt.notes ++ failureLine failure.messages }

end Outcome

end Daybook
