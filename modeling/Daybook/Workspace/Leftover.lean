import Daybook.Workspace.Access
import Daybook.Workspace.Address
import Daybook.Workspace.Basic

namespace Daybook

namespace Database

/-- Where something is that stands for a lock on a database. -/
def lock (location : Location) : Location :=
  location.beside ".lock"

def journal (location : Location) : Location :=
  location.beside "-journal"

def log (location : Location) : Location :=
  location.beside "-wal"

def logIndex (location : Location) : Location :=
  location.beside "-shm"

/-- What there is in the place of a journal or a log, left there by work that was cut short. Nothing in it can
    be carried out, so that a database is as good as its own file says once it is out of the way. -/
inductive Leftover where
  /-- Nothing, or a file without content. -/
  | nothing
  | folder
  /-- A file that begins with the byte 0, as a journal does that has served. -/
  | spent
  | pending
  deriving DecidableEq

/-- What an entry is as a leftover file. -/
def Leftover.ofEntry : Option Entry → Leftover
  | none => .nothing
  | some .folder => .folder
  | some (.text content) =>
    match content.toList with
    | [] => .nothing
    | c :: _ => if c = '\x00' then .spent else .pending
  | some .void => .nothing
  | some (.tasks _) => .pending
  | some .binary => .pending

/-- The bytes of the head of a log. -/
def logHeadSize : Nat := 32

end Database

/-- Whether an entry has room for the head of a log. -/
def Entry.hasLogHead : Entry → Bool
  | .text content => Database.logHeadSize ≤ content.utf8ByteSize
  | .tasks _ => true
  | .binary => true
  | .folder => false
  | .void => false

namespace Workspace

open Database

/-- What there is in the place of a leftover file. -/
def leftover (w : Workspace) (location : Location) : Leftover :=
  .ofEntry (w.entry? location)

/-- What keeps a database from being locked. -/
def lockObstacle? (w : Workspace) (address : Address) (location : Location) : Option Obstacle :=
  let place := lock location
  if address.system != .lockFile || address.isUnlocked then none
  else if place.isTooLong then some .cannotLock
  else if (w.entry? place).isSome then some .locked
  else none

/-- Whether the journal of a database counts as one of a change that is under way. It does where
    something beside the database stands for a lock, even for the lock that was just taken. -/
def isJournalBusy (w : Workspace) (address : Address) (location : Location) : Bool :=
  address.system == .lockFile && (!address.isUnlocked || (w.entry? (lock location)).isSome)

/-- Does away with the journal of an empty database, if it can be. -/
def dropJournal (w : Workspace) (address : Address) (location : Location) : Workspace :=
  if address.isWritable || address.isUnlocked then w.remove (journal location) else w

/-- Does away with the journal of a database. That of an empty one is removed if it can be; that of
    any other only if it has not served, and then it has to be. -/
def settleJournal (w : Workspace) (address : Address) (location : Location) (isEmpty : Bool) :
    Except Obstacle Workspace :=
  let place := journal location
  if w.isJournalBusy address location then .ok w
  else
    match w.leftover place with
    | .nothing => .ok w
    | .folder => if isEmpty then .ok w else .error .cannotRead
    | .spent => .ok (if isEmpty then w.dropJournal address location else w)
    | .pending =>
      if isEmpty then .ok (w.dropJournal address location)
      else if address.isWritable then .ok (w.remove place)
      else .error .unfinished

/-- Whether a journal can be made for a database. -/
def canJournal (w : Workspace) (location : Location) : Bool :=
  let place := journal location
  w.leftover place != .folder && !place.isTooLong

/-- Access to a database without a log. -/
def plainAccess (w : Workspace) (address : Address) (location : Location) : Access :=
  if !address.isWritable then .readOnly
  else if w.canJournal location then .journaled
  else .unjournaled

end Workspace

end Daybook
