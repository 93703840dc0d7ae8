import Daybook.Session
import Daybook.Task.Basic
import Daybook.Workspace.Database

namespace Daybook

inductive Failure where
  /-- There is no text at the path of the configuration. -/
  | configUnread (path : String) (cause : Workspace.Fault)
  | configRefused (path : String) (cause : Config.Error)
  | session (cause : Session.Error)
  /-- The next date is asked for without a start date. -/
  | missingDate
  /-- The next date is asked for without a rule. -/
  | missingRule
  | invalidNow (text : String) (cause : DateError)
  | invalidRule (text : String) (cause : Rule.Error)
  | occurrence (cause : Occurrence.Error)
  | taskId (cause : TaskId.Error)
  | task (cause : Task.Error)
  | database (cause : Database.Error)
  | store (cause : Store.Error)
  | change (cause : Database.ChangeError)
  deriving DecidableEq

/-- The messages of a failure, outermost first. Each may repeat a part of the one before. -/
def Failure.messages : Failure → List String
  | .configUnread path cause => ["Failed to read config: " ++ path, cause.message]
  | .configRefused path cause => ["Failed to load config: " ++ path, cause.message]
  | .session cause => cause.message :: cause.causes
  | .missingDate => ["--date is required"]
  | .missingRule => ["--repeat is required"]
  | .invalidNow text cause => ["Invalid --now value '" ++ text ++ "'", cause.message]
  | .invalidRule text cause => ["Invalid repeat rule '" ++ text ++ "'", cause.message]
  | .occurrence cause => cause.message :: cause.causes
  | .taskId cause => [cause.message]
  | .task cause => cause.message :: cause.causes
  | .database cause => cause.messages
  | .store cause => cause.message :: cause.causes
  | .change cause => cause.messages

end Daybook
