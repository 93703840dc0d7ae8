import Daybook.Planner.Run
import Daybook.Proofs.Arguments.Styles

namespace Daybook

open Arguments (Setting)

/-- A run of the planner: its words, and what it finds outside them and its workspace. -/
structure Launch where
  environment : Environment
  texts : List String

namespace Launch

def reading (launch : Launch) : Except Arguments.Stop Invocation :=
  Arguments.read launch.environment.toVariables launch.texts

def run (launch : Launch) (w : Workspace) : Workspace × Outcome :=
  Planner.run launch.environment w launch.texts

/-- What runs one after another make of a workspace. -/
def after (w : Workspace) (launches : List Launch) : Workspace :=
  launches.foldl (fun w launch => (launch.run w).1) w

end Launch

namespace Planner

end Planner

namespace Outcome

variable {style other : Style}

end Outcome

namespace Launch

variable {free : List Setting} {launch other : Launch}

end Launch

end Daybook
