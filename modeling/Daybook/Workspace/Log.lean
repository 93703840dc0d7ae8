import Daybook.Workspace.Leftover

namespace Daybook

namespace Database

/-- How the index of a log can be had. -/
inductive LogIndex where
  /-- In memory, whatever is in its place. -/
  | hidden
  /-- In its file, which is made anew. -/
  | file
  /-- In its place, where nothing can be changed. -/
  | frozen
  /-- Not at all. -/
  | missing
  deriving DecidableEq

end Database

namespace Workspace

open Database

/-- How the index of the log of a database can be had. -/
def indexOf (w : Workspace) (address : Address) (location : Location) : LogIndex :=
  let found := w.entry? (logIndex location)
  if address.hidesIndex then .hidden
  else if found == some .folder then .frozen
  else if !address.keepsIndex then .file
  else if found.isSome then .frozen
  else .missing

/-- Enters a log. It is removed with the index that is made of it where the database may be written;
    else both stay. With an index that cannot be made anew, only a log without a head can be
    passed over. -/
def enterLog (w : Workspace) (address : Address) (location : Location) :
    Except Obstacle (Workspace × Access) :=
  let place := log location
  match w.indexOf address location with
  | .missing => .error .cannotOpen
  | .hidden => .ok (w.remove place, .logged)
  | .file =>
    if address.isWritable then .ok ((w.remove place).remove (logIndex location), .logged)
    else .ok (w.put (logIndex location) .binary, .readOnly)
  | .frozen =>
    if (w.entry? place).any Entry.hasLogHead then .error .lockProtocol else .ok (w, .readOnly)

/-- Does away with the log of a database. That of an empty one is removed; that of any other is
    entered. -/
def settleLog (w : Workspace) (address : Address) (location : Location) (isEmpty : Bool) :
    Except Obstacle (Workspace × Access) :=
  let place := log location
  match w.leftover place with
  | .nothing => .ok (w, w.plainAccess address location)
  | .folder => .error (if isEmpty then .cannotRemove else .cannotOpen)
  | _ =>
    if isEmpty then .ok (w.remove place, w.plainAccess address location)
    else if !address.hasLogs then .error .cannotOpen
    else w.enterLog address location

/-- Does away with the files beside a database before that is read, and says what can be done with
    it. The journal is gone even where the log is an obstacle. -/
def settle (w : Workspace) (address : Address) (location : Location) (isEmpty : Bool) :
    Workspace × Except Obstacle Access :=
  match w.lockObstacle? address location with
  | some obstacle => (w, .error obstacle)
  | none =>
    match w.settleJournal address location isEmpty with
    | .error obstacle => (w, .error obstacle)
    | .ok w =>
      match w.settleLog address location isEmpty with
      | .error obstacle => (w, .error obstacle)
      | .ok (w, access) => (w, .ok access)

end Workspace

end Daybook
